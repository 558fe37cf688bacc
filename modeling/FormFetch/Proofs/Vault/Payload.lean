import FormFetch.Proofs.Json.Entries
import FormFetch.Proofs.Vault.Seal
import FormFetch.Vault.Payload

/-!
# Payloads are read exactly

A payload gives a text only if it is the mark, a nonce and the sealed form of this text.

* `read_eq_ok_iff`, `read_eq_invalid_iff` and `read_eq_undecryptable_iff` say for every
  byte sequence which of the three outcomes it has.
* `read_outcomes` joins them with the JSON form of credentials.
-/

namespace FormFetch.Vault.Payload

variable {material : String} {nonce text payload : List UInt8}

/-! ## What is cut out of a payload -/

theorem take_write : (write material nonce text).take mark.length = mark := by
  rw [write, List.append_assoc]
  exact List.take_left

theorem drop_write :
    (write material nonce text).drop mark.length = nonce ++ Seal.close (key material) nonce text := by
  rw [write, List.append_assoc]
  exact List.drop_left

theorem length_write :
    (write material nonce text).length =
      mark.length + nonce.length + (text.length + Seal.tagSize) := by
  rw [write, List.length_append, List.length_append, Seal.length_close]

/-- A payload with its mark and its nonce gives what the seal gives. -/
theorem read_of_framed (hlength : mark.length + nonceSize ≤ payload.length)
    (hmark : payload.take mark.length = mark) :
    read material payload =
      (Seal.open? (key material) ((payload.drop mark.length).take nonceSize)
        ((payload.drop mark.length).drop nonceSize)).elim (.error .undecryptable) .ok := by
  have hframed : ¬(payload.length < mark.length + nonceSize ∨
      payload.take mark.length ≠ mark) := by
    rintro (hshort | hother)
    · omega
    · exact hother hmark
  rw [read, if_neg hframed]
  dsimp only
  cases Seal.open? (key material) ((payload.drop mark.length).take nonceSize)
    ((payload.drop mark.length).drop nonceSize) with
  | some text => rfl
  | none => rfl

/-! ## The three outcomes -/

/-- Too short, or another mark: this and nothing else is invalid. -/
theorem read_eq_invalid_iff :
    read material payload = .error .invalid ↔
      payload.length < mark.length + nonceSize ∨ payload.take mark.length ≠ mark := by
  constructor
  · intro h
    by_cases hframed : payload.length < mark.length + nonceSize ∨ payload.take mark.length ≠ mark
    · exact hframed
    · obtain ⟨hlength, hmark⟩ := not_or.mp hframed
      rw [read_of_framed (by omega) (Decidable.not_not.mp hmark)] at h
      cases hopen : Seal.open? (key material) ((payload.drop mark.length).take nonceSize)
        ((payload.drop mark.length).drop nonceSize) with
      | some text =>
        rw [hopen] at h
        cases h
      | none =>
        rw [hopen] at h
        cases h
  · intro h
    rw [read, if_pos h]

theorem read_write (hnonce : nonce.length = nonceSize) :
    read material (write material nonce text) = .ok text := by
  rw [read_of_framed (by rw [length_write]; omega) take_write, drop_write, ← hnonce,
    List.take_left, List.drop_left, Seal.open?_close]
  rfl

/-- What is read is what was sealed under the nonce that the payload holds. -/
theorem eq_write_of_read (h : read material payload = .ok text) :
    mark.length + nonceSize ≤ payload.length ∧
      payload = write material ((payload.drop mark.length).take nonceSize) text := by
  by_cases hframed : payload.length < mark.length + nonceSize ∨ payload.take mark.length ≠ mark
  · rw [read_eq_invalid_iff.mpr hframed] at h
    cases h
  obtain ⟨hlength, hmark⟩ := not_or.mp hframed
  have hmark := Decidable.not_not.mp hmark
  rw [read_of_framed (by omega) hmark] at h
  cases hopen : Seal.open? (key material) ((payload.drop mark.length).take nonceSize)
    ((payload.drop mark.length).drop nonceSize) with
  | none =>
    rw [hopen] at h
    cases h
  | some found =>
    rw [hopen] at h
    obtain rfl := Except.ok.inj h
    refine ⟨by omega, ?_⟩
    calc payload = payload.take mark.length ++ payload.drop mark.length :=
          (List.take_append_drop ..).symm
      _ = mark ++ ((payload.drop mark.length).take nonceSize ++
            (payload.drop mark.length).drop nonceSize) := by
          rw [hmark, List.take_append_drop]
      _ = write material ((payload.drop mark.length).take nonceSize) found := by
          rw [Seal.open?_eq_some_iff.mp hopen, write, List.append_assoc]

/-- A payload is read as a text exactly if it is the payload of this text under some nonce. -/
theorem read_eq_ok_iff :
    read material payload = .ok text ↔
      ∃ nonce, nonce.length = nonceSize ∧ payload = write material nonce text := by
  constructor
  · intro h
    obtain ⟨hlength, heq⟩ := eq_write_of_read h
    refine ⟨(payload.drop mark.length).take nonceSize, ?_, heq⟩
    rw [List.length_take, List.length_drop]
    omega
  · rintro ⟨nonce, hnonce, rfl⟩
    exact read_write hnonce

/-- Everything else that has its mark and its nonce does not decrypt. -/
theorem read_eq_undecryptable_iff :
    read material payload = .error .undecryptable ↔
      mark.length + nonceSize ≤ payload.length ∧ payload.take mark.length = mark ∧
        ∀ nonce text, nonce.length = nonceSize → payload ≠ write material nonce text := by
  constructor
  · intro h
    have hframed : ¬(payload.length < mark.length + nonceSize ∨
        payload.take mark.length ≠ mark) := by
      intro hinvalid
      rw [read_eq_invalid_iff.mpr hinvalid] at h
      cases h
    obtain ⟨hlength, hmark⟩ := not_or.mp hframed
    refine ⟨by omega, Decidable.not_not.mp hmark, ?_⟩
    rintro nonce text hnonce rfl
    rw [read_write hnonce] at h
    cases h
  · rintro ⟨hlength, hmark, hother⟩
    cases hread : read material payload with
    | ok text =>
      obtain ⟨nonce, hnonce, heq⟩ := read_eq_ok_iff.mp hread
      exact absurd heq (hother nonce text hnonce)
    | error fault =>
      cases fault with
      | invalid =>
        rcases read_eq_invalid_iff.mp hread with hshort | hother
        · omega
        · exact absurd hmark hother
      | undecryptable => rfl

/-! ## Payloads of credentials -/

/-- Sealed credentials come back, nothing else opens, and every other byte sequence has the fault
of its first defect: too short or another mark is `invalid`, and all the rest is
`undecryptable`. -/
theorem read_outcomes (material : String) :
    (∀ (entries : List Credentials) (nonce : List UInt8), nonce.length = nonceSize →
      read material (write material nonce (Json.Entries.write entries)) =
          .ok (Json.Entries.write entries) ∧
        Json.Entries.read (Json.Entries.write entries) = .ok entries) ∧
    (∀ payload text, read material payload = .ok text ↔
      ∃ nonce, nonce.length = nonceSize ∧
        payload = mark ++ nonce ++ Seal.close (key material) nonce text) ∧
    (∀ payload payload' text, read material payload = .ok text → read material payload' = .ok text →
      (payload.drop mark.length).take nonceSize = (payload'.drop mark.length).take nonceSize →
      payload = payload') ∧
    (∀ payload, read material payload = .error .invalid ↔
      payload.length < 28 ∨ payload.take 4 ≠ mark) ∧
    (∀ payload, read material payload = .error .undecryptable ↔
      28 ≤ payload.length ∧ payload.take 4 = mark ∧
        ∀ nonce text, nonce.length = nonceSize → payload ≠ write material nonce text) ∧
    ∀ payload, read material payload ≠ .error .invalid →
      (payload.take mark.length).length = mark.length ∧
        ((payload.drop mark.length).take nonceSize).length = nonceSize := by
  refine ⟨?_, ?_, ?_, ?_, ?_, ?_⟩
  · intro entries nonce hnonce
    exact ⟨read_write hnonce, Json.Entries.read_write entries⟩
  · intro payload text
    exact read_eq_ok_iff
  · intro payload payload' text h h' hnonce
    rw [(eq_write_of_read h).2, (eq_write_of_read h').2, hnonce]
  · intro payload
    exact read_eq_invalid_iff
  · intro payload
    exact read_eq_undecryptable_iff
  · intro payload h
    have hframed := mt read_eq_invalid_iff.mpr h
    rw [List.length_take, List.length_take, List.length_drop]
    omega

/-- An entry with quotes, backslashes, control characters and characters outside ASCII. -/
def oddEntry : Credentials :=
  ⟨"http://forms.example", "\"al\\ice\"\n", "\x01\x7fé🔑"⟩

/-- The payload of this entry. -/
def oddPayload : List UInt8 :=
  write "key" (List.replicate 24 7) (Json.Entries.write [oddEntry])

theorem read_oddPayload :
    (List.replicate 24 (7 : UInt8)).length = nonceSize ∧
      read "key" oddPayload = .ok (Json.Entries.write [oddEntry]) ∧
      Json.Entries.read (Json.Entries.write [oddEntry]) = .ok [oddEntry] ∧
      read "key" oddPayload ≠ .error .invalid ∧
      ((oddPayload.drop mark.length).take nonceSize).length = nonceSize := by
  obtain ⟨hback, -, -, -, -, hcut⟩ := read_outcomes "key"
  obtain ⟨hread, hentries⟩ := hback [oddEntry] (List.replicate 24 7) rfl
  have hvalid : read "key" oddPayload ≠ .error .invalid := by
    rw [oddPayload, hread]
    intro h
    cases h
  exact ⟨rfl, hread, hentries, hvalid, (hcut oddPayload hvalid).2⟩

end FormFetch.Vault.Payload
