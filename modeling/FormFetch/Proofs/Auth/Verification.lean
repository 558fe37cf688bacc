import FormFetch.Proofs.Auth.Answer
import FormFetch.Proofs.Auth.Characters

/-!
# Answers that can be checked

A server that has forgotten its challenges can still check an answer: everything that goes into
the proof of the password has to stand in it.  A session algorithm hashes the client nonce, and
the client nonce is written only next to `qop`.

* `expected?` is the check of such a server.
* `expected?_shown` says what it makes of an answer, and `verified_iff` that it comes to the
  proof in the answer unless a session algorithm was asked for without `qop`.
* `unverified_session` is a challenge of that sort which a client takes on.
-/

namespace FormFetch.Auth.Digest

open FormFetch.Text FormFetch.Http

/-! ## The server -/

/-- The parameters behind the scheme of an answer, of which none may come twice. -/
def fields? (text : String) : Option (List (String × String)) :=
  let scheme := text.toList.takeWhile (!isBlank ·)
  let params := Param.pairs (text.toList.dropWhile (!isBlank ·))
  if sameIgnoringCase (String.ofList scheme) "digest" ∧ (params.map (·.1)).Nodup then some params
  else none

/-- The proof of a password that has to stand next to these parameters.  There is none if a part of
what is hashed does not stand there. -/
def expected? (method password : String) (params : List (String × String)) : Option String := do
  let username ← params.lookup "username"
  let realm ← params.lookup "realm"
  let nonce ← params.lookup "nonce"
  let uri ← params.lookup "uri"
  let algorithm ← (params.lookup "algorithm").elim (some .md5) Algorithm.ofName?
  let plain := algorithm.hash s!"{username}:{realm}:{password}"
  let request := algorithm.hash s!"{method}:{uri}"
  let secret ←
    if algorithm.isSession then
      (params.lookup "cnonce").map fun cnonce => algorithm.hash s!"{plain}:{nonce}:{cnonce}"
    else some plain
  match params.lookup "qop" with
  | none => some (algorithm.hash s!"{secret}:{nonce}:{request}")
  | some quality =>
    let count ← params.lookup "nc"
    let cnonce ← params.lookup "cnonce"
    if quality = "auth" then
      some (algorithm.hash s!"{secret}:{nonce}:{count}:{cnonce}:auth:{request}")
    else none

/-! ## What it makes of an answer -/

section Answer

variable {c : Challenge} {credentials : Credentials} {method uri cnonce : String} {count : UInt32}

theorem fields?_answer (h : Unquoted cnonce) :
    fields? (c.answer credentials method uri count cnonce) =
      some (shown c credentials.username credentials.password method uri count cnonce) := by
  have hscheme : ∀ rest : List Char,
      ("Digest".toList ++ ' ' :: rest).takeWhile (!isBlank ·) = "Digest".toList := fun rest => rfl
  have hrest : ∀ rest : List Char,
      ("Digest".toList ++ ' ' :: rest).dropWhile (!isBlank ·) = [' '] ++ rest := fun rest => rfl
  have hdigest : sameIgnoringCase (String.ofList "Digest".toList) "digest" = true := by
    decide
  have hblank : ∀ ch ∈ [' '], Param.isSeparator ch = true := by
    rw [List.forall_mem_singleton]
    rfl
  rw [fields?, answer_eq, String.toList_ofList, hscheme, hrest, Param.pairs_separators hblank,
    pairs_writeAll_params _ _ h]
  exact if_pos ⟨hdigest, nodup_shown ..⟩

/-- Every text that is hashed stands in the answer, but for the client nonce of a session that was
asked for without `qop`. -/
theorem expected?_shown (c : Challenge) (username password method uri : String) (count : UInt32)
    (cnonce : String) :
    expected? method password (shown c username password method uri count cnonce) =
      if c.algorithm.isSession → c.offersAuth then
        some (c.response username password method uri count cnonce)
      else none := by
  have halgorithm := ofName?_name c.algorithm
  obtain ⟨realm, nonce, opaqueValue, algorithm, offersAuth, stale⟩ := c
  rw [shown_eq]
  cases hsession : algorithm.isSession <;> cases offersAuth <;> cases opaqueValue <;>
    simp [expected?, List.lookup_cons, Challenge.response, Challenge.secret, hsession, halgorithm]

/-- A server that knows the password and the method, and else only what it was sent, comes to the
proof in the answer exactly if the challenge has no session algorithm or offers `qop`.  If it has
one and offers none, the client nonce that was hashed is not in the answer.  Whenever the answer
can be sent, a strict reader finds the same parameters. -/
theorem verified_iff (c : Challenge) (credentials : Credentials) (method uri : String)
    (count : UInt32) {cnonce : String} (h : Verbatim cnonce) :
    let answer := c.answer credentials method uri count cnonce
    ∃ params proof, fields? answer = some params ∧ params.lookup "response" = some proof ∧
      ((fieldValue? answer).isSome → Grammar.credentials? answer = some ("Digest", params)) ∧
      (expected? method credentials.password params = some proof ↔
        (c.algorithm.isSession → c.offersAuth)) ∧
      (c.algorithm.isSession ∧ ¬c.offersAuth → params.lookup "cnonce" = none ∧
        expected? method credentials.password params = none) := by
  intro answer
  refine ⟨shown c credentials.username credentials.password method uri count cnonce,
    c.response credentials.username credentials.password method uri count cnonce,
    fields?_answer h.unquoted, ?_, fun hfits => ?_, ?_, ?_⟩
  · simp [shown_eq, List.lookup_cons]
  · exact credentials?_answer ((isSome_fieldValue?_answer h).mp hfits)
  · rw [expected?_shown]
    simp
  · rintro ⟨hsession, hoffers⟩
    rw [expected?_shown, if_neg fun hall => hoffers (hall hsession)]
    refine ⟨?_, rfl⟩
    cases htext : c.opaqueValue <;> simp [shown_eq, List.lookup_cons, hoffers, htext]

/-- An answer of a session, with marks in every text, is checked. -/
theorem verified_iff_forging :
    Verbatim (clientNonce [0x00, 0xff]) ∧
      ∃ params proof,
        fields? (forgingChallenge.answer
          ⟨"http://forms.example", "al\\\"ice, realm=x", "s3cret"⟩ "GET" "/formList?a=\"b\"," 31
          (clientNonce [0x00, 0xff])) = some params ∧
        params.lookup "response" = some proof ∧ expected? "GET" "s3cret" params = some proof := by
  have hcnonce : Verbatim (clientNonce [0x00, 0xff]) := verbatim_hex _
  obtain ⟨params, proof, hfields, hproof, -, hiff, -⟩ := verified_iff forgingChallenge
    ⟨"http://forms.example", "al\\\"ice, realm=x", "s3cret"⟩ "GET" "/formList?a=\"b\"," 31 hcnonce
  exact ⟨hcnonce, params, proof, hfields, hproof, hiff.mpr fun _ => rfl⟩

/-- A client takes on a challenge with a session algorithm and without `qop`, and no server can
check its answer. -/
theorem unverified_session :
    ∃ c params, Challenge.parse? "Digest realm=\"forms\", nonce=\"n\", algorithm=MD5-sess" = some c ∧
      fields? (c.answer ⟨"http://forms.example", "alice", "s3cret"⟩ "GET" "/formList" 1
        (clientNonce [0x0a, 0x4f, 0x11, 0x3b])) = some params ∧
      (params.lookup "response").isSome ∧ params.lookup "cnonce" = none ∧
      expected? "GET" "s3cret" params = none := by
  have hread : Challenge.parse? "Digest realm=\"forms\", nonce=\"n\", algorithm=MD5-sess" =
      some ⟨"forms", "n", none, .md5Session, false, false⟩ := by
    decide +kernel
  refine ⟨_, _, hread, fields?_answer (unquoted_clientNonce _), ?_, ?_, ?_⟩
  · simp [shown_eq, List.lookup_cons]
  · simp [shown_eq, List.lookup_cons]
  · rw [expected?_shown]
    rfl

end Answer

end FormFetch.Auth.Digest
