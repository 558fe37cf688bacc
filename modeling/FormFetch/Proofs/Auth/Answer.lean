import FormFetch.Proofs.Auth.Digest

/-!
# Answers say what was put into them

The texts of an answer come from a server, a user and a request, and any of them may hold
quotes, backslashes, commas and equals signs.  None of them reaches beyond its own
parameter: a reader of the parameters finds each one under its name, as it was, and finds
nothing else.

* `pairs_writeAll_params` is the way back of the parameters.
* `lowerHex_countText` says how the nonce count is written.
* `lookup_answer` is the result.
-/

namespace FormFetch.Auth.Digest

open FormFetch.Auth.Param (Written Readable writeAll)

/-! ## Texts between quotes -/

/-- A text that can stand between quotes as it is. -/
def Unquoted (text : String) : Prop :=
  ∀ ch ∈ text.toList, ch ≠ '"' ∧ ch ≠ '\\'

theorem Verbatim.unquoted {text : String} (h : Verbatim text) : Unquoted text :=
  fun ch hch => (h ch hch).2

/-- The nonces that a client makes are of this kind. -/
theorem unquoted_clientNonce (random : List UInt8) : Unquoted (clientNonce random) :=
  (verbatim_hex random).unquoted

/-! ## Nonce counts -/

theorem lowerHex_hexDigit : ∀ d < 16, Bytes.hexDigit d ∈ "0123456789abcdef".toList := by
  decide

theorem lowerHex_countText (count : UInt32) :
    ∀ ch ∈ (Challenge.countText count).toList, ch ∈ "0123456789abcdef".toList := by
  intro ch hch
  rw [Challenge.countText, String.toList_ofList] at hch
  obtain ⟨d, hd, rfl⟩ := Bytes.exists_hexDigit_of_mem_hexPadded hch
  exact lowerHex_hexDigit d hd

theorem bareText_countText (count : UInt32) :
    Param.BareText (Challenge.countText count).toList := by
  have hdigits : ∀ ch ∈ "0123456789abcdef".toList,
      ch ≠ '"' ∧ ch ≠ ',' ∧ Text.isBlank ch = false := by
    simp [Text.isBlank]
  exact Param.bareText_of_forall fun ch hch => hdigits ch (lowerHex_countText count ch hch)

/-! ## Parameters -/

section Answer

variable {c : Challenge} {method uri cnonce : String} {count : UInt32}

theorem readable_of_mem_params {username password : String} (h : Unquoted cnonce)
    {p : String × Written} (hp : p ∈ c.params username password method uri count cnonce) :
    Readable p := by
  obtain ⟨-, hne, hname⟩ := name_of_mem_params hp
  refine ⟨hne, hname, ?_⟩
  rcases mem_params hp with rfl | rfl | rfl | rfl | rfl | rfl | rfl | rfl | rfl | ⟨text, -, rfl⟩
  · trivial
  · trivial
  · trivial
  · trivial
  · exact bareText_algorithm c.algorithm
  · exact (verbatim_response c username password method uri count cnonce).unquoted
  · exact Param.bareText_of_forall (by simp [Text.isBlank])
  · exact bareText_countText count
  · exact h
  · trivial

/-- The parameters of an answer are read as they were written. -/
theorem pairs_writeAll_params (username password : String) (h : Unquoted cnonce) :
    Param.pairs (writeAll (c.params username password method uri count cnonce)) =
      shown c username password method uri count cnonce :=
  Param.pairs_writeAll fun _ hp => readable_of_mem_params h hp

theorem shown_eq (username password : String) :
    shown c username password method uri count cnonce =
      [("username", username), ("realm", c.realm), ("nonce", c.nonce), ("uri", uri),
        ("algorithm", c.algorithm.name),
        ("response", c.response username password method uri count cnonce)] ++
      (if c.offersAuth then
        [("qop", "auth"), ("nc", Challenge.countText count), ("cnonce", cnonce)]
      else []) ++
      (c.opaqueValue.map (("opaque", ·))).toList := by
  obtain ⟨realm, nonce, opaqueValue, algorithm, offersAuth, stale⟩ := c
  cases opaqueValue <;> cases offersAuth <;> rfl

/-- No text can change or add a parameter: behind its scheme an answer holds the parameters of
the challenge and of the request, each with the text that was put in, and nothing else.  The count
stands on eight lower-case digits. -/
theorem lookup_answer (c : Challenge) (credentials : Credentials) (method uri : String)
    (count : UInt32) {cnonce : String} (h : Unquoted cnonce) :
    ∃ body, (c.answer credentials method uri count cnonce).toList = "Digest ".toList ++ body ∧
      (∀ name text, Param.lookup name (Param.pairs body) = some text ↔
        (name, text) ∈
          [("username", credentials.username), ("realm", c.realm), ("nonce", c.nonce),
            ("uri", uri), ("algorithm", c.algorithm.name),
            ("response", c.response credentials.username credentials.password method uri count
              cnonce)] ++
          (if c.offersAuth then
            [("qop", "auth"), ("nc", Challenge.countText count), ("cnonce", cnonce)]
          else []) ++
          (c.opaqueValue.map (("opaque", ·))).toList) ∧
      (Challenge.countText count).length = 8 ∧
      (∀ ch ∈ (Challenge.countText count).toList, ch ∈ "0123456789abcdef".toList) ∧
      Bytes.hexNumber? (Challenge.countText count).toList = some count.toNat := by
  refine ⟨writeAll (c.params credentials.username credentials.password method uri count cnonce),
    ?_, fun name text => ?_, length_countText count, lowerHex_countText count,
    hexNumber?_countText count⟩
  · unfold Challenge.answer
    exact String.toList_ofList
  · rw [pairs_writeAll_params _ _ h, Param.lookup_eq_some_iff (nodup_shown ..), shown_eq]

/-- A challenge and a request whose texts try to bring parameters of their own. -/
def forgingChallenge : Challenge where
  realm := "forms\", username=\"root"
  nonce := "n\\"
  opaqueValue := some "a=\"b\", nc=00000009"
  algorithm := .sha256Session
  offersAuth := true
  stale := false

theorem lookup_answer_forging :
    Unquoted "00ff" ∧
      ∃ body, (forgingChallenge.answer ⟨"http://forms.example", "al\\\"ice, realm=x", "s3cret"⟩
          "GET" "/formList?a=\"b\"," 31 "00ff").toList = "Digest ".toList ++ body ∧
        Param.lookup "username" (Param.pairs body) = some "al\\\"ice, realm=x" ∧
        Param.lookup "realm" (Param.pairs body) = some "forms\", username=\"root" ∧
        Param.lookup "nc" (Param.pairs body) = some (Challenge.countText 31) ∧
        Bytes.hexNumber? (Challenge.countText 31).toList = some 31 := by
  have hcnonce : Unquoted "00ff" := by
    have hall : "00ff".toList.all (fun ch => ch != '"' && ch != '\\') = true := by decide
    intro ch hch
    simpa using List.all_eq_true.mp hall ch hch
  obtain ⟨body, hbody, hlookup, -, -, hcount⟩ :=
    lookup_answer forgingChallenge ⟨"http://forms.example", "al\\\"ice, realm=x", "s3cret"⟩
      "GET" "/formList?a=\"b\"," 31 hcnonce
  refine ⟨hcnonce, body, hbody, ?_, ?_, ?_, hcount⟩
  · exact (hlookup _ _).mpr (by simp)
  · exact (hlookup _ _).mpr (by simp [forgingChallenge])
  · exact (hlookup _ _).mpr (by simp [forgingChallenge])

end Answer

end FormFetch.Auth.Digest
