import FormFetch.Auth.Digest
import FormFetch.Proofs.Auth.Grammar
import FormFetch.Proofs.Bytes.Hex
import FormFetch.Proofs.Http.Fields

/-!
# Challenges and answers on the wire

A challenge that is written as a parameter list is read as this list, and a strict
server reads an answer as the parameters that it was written from.

* `parse?_writeAll` is the way of a challenge.
* `Fit` is what the texts of an answer have to be, and `credentials?_answer` and
  `fieldValue?_answer` are the way of an answer.
-/

namespace FormFetch.Auth.Digest

open FormFetch.Text FormFetch.Http
open FormFetch.Auth.Param (Written Readable writeAll write)

/-! ## Challenges -/

theorem exists_concat_write {p : String × Written} (h : Readable p) :
    ∃ cs c, write p = cs ++ [c] ∧ isBlank c = false := by
  obtain ⟨name, w⟩ := p
  cases w with
  | quoted text =>
    exact ⟨name.toList ++ '=' :: '"' :: Param.escape text.toList, '"',
      by simp [write, Written.chars],
      rfl⟩
  | verbatim text =>
    exact ⟨name.toList ++ '=' :: '"' :: text.toList, '"', by simp [write, Written.chars], rfl⟩
  | token text =>
    rcases List.eq_nil_or_concat text.toList with hnil | ⟨cs, c, hcs⟩
    · exact ⟨name.toList, '=', by simp [write, Written.chars, hnil], rfl⟩
    · refine ⟨name.toList ++ '=' :: cs, c, by simp [write, Written.chars, hcs], ?_⟩
      have htrim : Text.trimEnd text.toList = text.toList := h.value.trimEnd
      rw [hcs, List.concat_eq_append] at htrim
      exact isBlank_of_trimEnd htrim

theorem exists_concat_writeAll {params : List (String × Written)} (hne : params ≠ [])
    (h : ∀ p ∈ params, Readable p) :
    ∃ cs c, writeAll params = cs ++ [c] ∧ isBlank c = false := by
  induction params with
  | nil => exact absurd rfl hne
  | cons p rest ih =>
    cases rest with
    | nil =>
      rw [Param.writeAll_singleton]
      exact exists_concat_write (h p (List.mem_cons_self ..))
    | cons q more =>
      obtain ⟨cs, c, hcs, hc⟩ := ih (by simp) fun r hr => h r (List.mem_cons_of_mem _ hr)
      refine ⟨write p ++ ',' :: ' ' :: cs, c, ?_, hc⟩
      rw [Param.writeAll_cons_cons, hcs]
      simp

/-- A challenge is read as the parameters that it was written from. -/
theorem parse?_writeAll {params : List (String × Written)} (hne : params ≠ [])
    (h : ∀ p ∈ params, Readable p) :
    Challenge.parse? (String.ofList ("Digest ".toList ++ writeAll params)) =
      Challenge.ofParams? (params.map fun p => (p.1, p.2.text)) := by
  obtain ⟨cs, c, hcs, hc⟩ := exists_concat_writeAll hne h
  have htrim : trim ("Digest ".toList ++ writeAll params) =
      "Digest ".toList ++ writeAll params := by
    have htrim' : trim ('D' :: ("igest ".toList ++ cs) ++ [c]) =
        'D' :: ("igest ".toList ++ cs) ++ [c] := trim_cons_concat _ rfl hc
    rw [hcs, ← List.append_assoc]
    exact htrim'
  have hscheme : ∀ rest : List Char,
      ("Digest ".toList ++ rest).takeWhile (!isBlank ·) = "Digest".toList := fun rest => rfl
  have hrest : ∀ rest : List Char,
      ("Digest ".toList ++ rest).dropWhile (!isBlank ·) = ' ' :: rest := fun rest => rfl
  have hdigest : sameIgnoringCase (String.ofList "Digest".toList) "digest" = true := by
    decide
  rw [Challenge.parse?, String.toList_ofList, htrim, hscheme, hrest]
  dsimp only
  rw [if_pos hdigest, Param.pairs_writeAll h]

theorem ofName?_name (a : Algorithm) : Algorithm.ofName? a.name = some a := by
  cases a <;> decide

/-- The name of an algorithm needs no quotes. -/
theorem bareText_algorithm (a : Algorithm) : Param.BareText a.name.toList := by
  have hname : a.name.toList.all (fun c => c != '"' && c != ',' && !isBlank c) = true := by
    cases a <;> decide
  refine Param.bareText_of_forall fun c hc => ?_
  simpa [and_assoc] using List.all_eq_true.mp hname c hc

/-! ## Digits in answers -/

theorem hexDigit_fit : ∀ d < 16, Grammar.isTextChar (Bytes.hexDigit d) = true ∧
    Bytes.hexDigit d ≠ '"' ∧ Bytes.hexDigit d ≠ '\\' ∧
    Grammar.isTokenChar (Bytes.hexDigit d) = true := by
  decide

/-- A text that is quoted as it stands. -/
def Verbatim (text : String) : Prop :=
  ∀ c ∈ text.toList, Grammar.isTextChar c = true ∧ c ≠ '"' ∧ c ≠ '\\'

theorem verbatim_hex (bytes : List UInt8) : Verbatim (Bytes.hex bytes) := by
  intro c hc
  rw [Bytes.hex, String.toList_ofList] at hc
  obtain ⟨d, hd, rfl⟩ := Bytes.exists_hexDigit_of_mem hc
  have := hexDigit_fit d hd
  exact ⟨this.1, this.2.1, this.2.2.1⟩

theorem verbatim_response (c : Challenge) (username password method uri : String)
    (count : UInt32) (cnonce : String) :
    Verbatim (c.response username password method uri count cnonce) := by
  unfold Challenge.response
  dsimp only
  split
  · exact verbatim_hex _
  · exact verbatim_hex _

theorem isTokenChar_countText (count : UInt32) :
    ∀ c ∈ (Challenge.countText count).toList, Grammar.isTokenChar c = true := by
  intro c hc
  rw [Challenge.countText, String.toList_ofList] at hc
  obtain ⟨d, hd, rfl⟩ := Bytes.exists_hexDigit_of_mem_hexPadded hc
  exact (hexDigit_fit d hd).2.2.2

theorem length_countText (count : UInt32) : (Challenge.countText count).length = 8 := by
  have hlt := count.toNat_lt
  have hdigits : (Bytes.hexOfNat count.toNat).length ≤ 8 :=
    (Nat.length_toDigits_le_iff (by omega) (by omega)).mpr (by omega)
  rw [Challenge.countText, String.length_ofList]
  exact Bytes.length_hexPadded hdigits

theorem hexNumber?_countText (count : UInt32) :
    Bytes.hexNumber? (Challenge.countText count).toList = some count.toNat := by
  rw [Challenge.countText, String.toList_ofList]
  exact Bytes.hexNumber?_hexPadded 8 count.toNat

/-! ## Answers -/

/-- The texts that go into an answer can stand between quotes. -/
structure Fit (c : Challenge) (username uri cnonce : String) : Prop where
  username : ∀ ch ∈ username.toList, Grammar.isTextChar ch = true
  realm : ∀ ch ∈ c.realm.toList, Grammar.isTextChar ch = true
  nonce : ∀ ch ∈ c.nonce.toList, Grammar.isTextChar ch = true
  opaqueValue : ∀ text, c.opaqueValue = some text →
    ∀ ch ∈ text.toList, Grammar.isTextChar ch = true
  uri : ∀ ch ∈ uri.toList, Grammar.isTextChar ch = true
  cnonce : Verbatim cnonce

/-- The parameters of an answer as they are read. -/
def shown (c : Challenge) (username password method uri : String) (count : UInt32)
    (cnonce : String) : List (String × String) :=
  (c.params username password method uri count cnonce).map fun p => (p.1, p.2.text)

/-- The names of the parameters of an answer are different from one another. -/
theorem nodup_shown (c : Challenge) (username password method uri : String) (count : UInt32)
    (cnonce : String) : ((shown c username password method uri count cnonce).map (·.1)).Nodup := by
  obtain ⟨realm, nonce, opaqueValue, algorithm, offersAuth, stale⟩ := c
  cases opaqueValue <;> cases offersAuth <;> simp [shown, Challenge.params]

section Answer

variable {c : Challenge} {credentials : Credentials} {method uri cnonce : String}
  {count : UInt32}

theorem answer_eq : c.answer credentials method uri count cnonce =
    String.ofList ("Digest".toList ++ ' ' ::
      writeAll (c.params credentials.username credentials.password method uri count cnonce)) :=
  rfl

/-- What an answer consists of. -/
theorem mem_params {username password : String} {p : String × Written}
    (hp : p ∈ c.params username password method uri count cnonce) :
    p = ("username", .quoted username) ∨ p = ("realm", .quoted c.realm) ∨
      p = ("nonce", .quoted c.nonce) ∨ p = ("uri", .quoted uri) ∨
      p = ("algorithm", .token c.algorithm.name) ∨
      p = ("response", .verbatim (c.response username password method uri count cnonce)) ∨
      p = ("qop", .token "auth") ∨ p = ("nc", .token (Challenge.countText count)) ∨
      p = ("cnonce", .verbatim cnonce) ∨
      ∃ text, c.opaqueValue = some text ∧ p = ("opaque", .quoted text) := by
  simp only [Challenge.params, List.mem_append, List.mem_cons, List.not_mem_nil, or_false] at hp
  rcases hp with ((rfl | rfl | rfl | rfl | rfl | rfl) | hp) | hp
  · simp
  · simp
  · simp
  · simp
  · simp
  · simp
  · split at hp
    · simp only [List.mem_cons, List.not_mem_nil, or_false] at hp
      rcases hp with rfl | rfl | rfl <;> simp
    · cases hp
  · split at hp
    · rename_i text htext
      rw [List.mem_singleton] at hp
      simp [hp, htext]
    · cases hp

/-- The names in an answer. -/
theorem name_of_mem_params {username password : String} {p : String × Written}
    (hp : p ∈ c.params username password method uri count cnonce) :
    Grammar.IsName p.1 ∧ p.1 ≠ "" ∧ p.1.toList.all Param.isNameChar = true := by
  have hnames : ∀ name ∈ ["username", "realm", "nonce", "uri", "algorithm", "response", "qop",
      "nc", "cnonce", "opaque"],
      Grammar.IsName name ∧ name ≠ "" ∧ name.toList.all Param.isNameChar = true := by
    decide
  refine hnames p.1 ?_
  rcases mem_params hp with rfl | rfl | rfl | rfl | rfl | rfl | rfl | rfl | rfl | ⟨text, -, rfl⟩ <;>
    simp

theorem wellformed_algorithm (a : Algorithm) : Grammar.Wellformed (.token a.name) := by
  cases a <;> exact ⟨by decide, List.all_eq_true.mp (by decide)⟩

theorem wellformed_of_mem_params {username password : String} (h : Fit c username uri cnonce)
    {p : String × Written} (hp : p ∈ c.params username password method uri count cnonce) :
    Grammar.Wellformed p.2 := by
  rcases mem_params hp with rfl | rfl | rfl | rfl | rfl | rfl | rfl | rfl | rfl | ⟨text, ho, rfl⟩
  · exact h.username
  · exact h.realm
  · exact h.nonce
  · exact h.uri
  · exact wellformed_algorithm c.algorithm
  · exact verbatim_response c username password method uri count cnonce
  · exact ⟨by decide, List.all_eq_true.mp (by decide)⟩
  · refine ⟨fun hnil => ?_, isTokenChar_countText count⟩
    have hlen := length_countText count
    rw [hnil] at hlen
    cases hlen
  · exact h.cnonce
  · exact h.opaqueValue text ho

/-- A strict server reads an answer as its parameters. -/
theorem credentials?_answer (h : Fit c credentials.username uri cnonce) :
    Grammar.credentials? (c.answer credentials method uri count cnonce) =
      some ("Digest",
        shown c credentials.username credentials.password method uri count cnonce) := by
  rw [answer_eq, Grammar.credentials?_writeAll (by decide)
    (List.all_eq_true.mp (by decide)) (fun p hp => (name_of_mem_params hp).1)
    fun p hp => wellformed_of_mem_params h hp,
    String.ofList_toList]
  rfl

/-- An answer fits into a header field. -/
theorem fieldValue?_answer (h : Fit c credentials.username uri cnonce) :
    fieldValue? (c.answer credentials method uri count cnonce) =
      some (Utf8.bytes (c.answer credentials method uri count cnonce)) := by
  refine fieldValue?_of_all fun ch hch => ?_
  rw [answer_eq, String.toList_ofList, List.mem_append, List.mem_cons] at hch
  rcases hch with hch | rfl | hch
  · have hscheme : ∀ d ∈ "Digest".toList, isFieldChar d = true :=
      List.all_eq_true.mp (by decide)
    exact hscheme ch hch
  · decide
  · exact Grammar.isTextChar_of_mem_writeAll (fun p hp => (name_of_mem_params hp).1)
      (fun p hp => wellformed_of_mem_params h hp) ch hch

end Answer

end FormFetch.Auth.Digest
