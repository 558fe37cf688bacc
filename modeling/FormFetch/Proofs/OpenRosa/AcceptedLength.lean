import Mathlib.Data.Nat.Digits.Defs
import FormFetch.OpenRosa.Basic
import FormFetch.Proofs.Http.Fields
import FormFetch.Proofs.Text.Number
import FormFetch.Proofs.Text.Strip

/-!
# The size of a submission

A server says in a header field how large a submission it takes.  The client reads the number
that is written there, or none.

* `States` is what such a field looks like, byte by byte: digits, with a plus sign in front of
  them or not, between spaces and tabs.
* `acceptedLength?_eq_some_iff` says which responses have a size, and which one.
* `acceptedLength?_exact` adds that a number beyond 64 bits gives none.
-/

namespace FormFetch.OpenRosa

open FormFetch.Text FormFetch.Http

/-! ## Bytes of a numeral -/

/-- The bytes of decimal digits. -/
def digitBytes (digits : List (Fin 10)) : List UInt8 :=
  digits.map fun d : Fin 10 => UInt8.ofNat (0x30 + d)

/-- The number of decimal digits, the last one of which counts once. -/
def number (digits : List (Fin 10)) : Nat :=
  Nat.ofDigits 10 (digits.reverse.map Fin.val)

theorem number_eq_valueFrom (digits : List (Fin 10)) : number digits = Number.valueFrom 0 digits := by
  rw [number, Nat.ofDigits_eq_foldr, List.foldr_map, List.foldr_reverse, Number.valueFrom]
  simp only [Nat.cast_id, Nat.mul_comm, Nat.add_comm]

/-- A space or a tab. -/
def IsPad (b : UInt8) : Prop :=
  b = 0x20 ∨ b = 0x09

/-- A field value that states a size in these digits, with zeros in front of them or not. -/
structure States (value : List UInt8) (digits : List (Fin 10)) : Prop where
  digits_ne : digits ≠ []
  layout : ∃ front sign back, value = front ++ ((sign ++ digitBytes digits) ++ back) ∧
    (∀ b ∈ front, IsPad b) ∧ (sign = [] ∨ sign = [0x2B]) ∧ ∀ b ∈ back, IsPad b

/-- The character of a byte. -/
def character (b : UInt8) : Char :=
  Char.ofNat b.toNat

theorem toNat_character (b : UInt8) : (character b).toNat = b.toNat :=
  Utf8.toNat_ofNat (Or.inl (by have := b.toNat_lt; omega))

theorem map_character_inj {xs ys : List UInt8} (h : xs.map character = ys.map character) :
    xs = ys := by
  refine (List.map_inj_right fun a b hab => ?_).mp h
  rw [← UInt8.toNat_inj, ← toNat_character, hab, toNat_character]

theorem map_character_digitBytes (digits : List (Fin 10)) :
    (digitBytes digits).map character = Number.digitChars digits := by
  have hdigit : ∀ d : Fin 10, character (UInt8.ofNat (0x30 + d)) = Nat.digitChar d := by
    decide
  rw [digitBytes, List.map_map, Number.digitChars]
  exact List.map_congr_left fun d _ => hdigit d

theorem isPad_of_isBlank {b : UInt8} (htext : isTextByte b = true)
    (h : isBlank (character b) = true) : IsPad b := by
  simp only [isTextByte, Bool.or_eq_true, Bool.and_eq_true, beq_iff_eq, decide_eq_true_eq,
    UInt8.le_iff_toNat_le, UInt8.lt_iff_toNat_lt, ← UInt8.toNat_inj, UInt8.reduceToNat] at htext
  simp only [isBlank, toNat_character, Bool.or_eq_true, Bool.and_eq_true, decide_eq_true_eq,
    beq_iff_eq] at h
  simp only [IsPad, ← UInt8.toNat_inj, UInt8.reduceToNat]
  omega

theorem IsPad.isTextByte {b : UInt8} (h : IsPad b) : isTextByte b = true := by
  rcases h with rfl | rfl <;> decide

theorem IsPad.isBlank {b : UInt8} (h : IsPad b) : isBlank (character b) = true := by
  rcases h with rfl | rfl <;> decide

/-- A byte of a numeral is printable and no blank. -/
theorem of_mem_numeral {sign : List UInt8} {digits : List (Fin 10)}
    (hsign : sign = [] ∨ sign = [0x2B]) {b : UInt8} (hb : b ∈ sign ++ digitBytes digits) :
    isTextByte b = true ∧ isBlank (character b) = false := by
  have hdigit : ∀ d : Fin 10, isTextByte (UInt8.ofNat (0x30 + d)) = true ∧
      isBlank (character (UInt8.ofNat (0x30 + d))) = false := by
    decide
  rcases List.mem_append.mp hb with hb | hb
  · rcases hsign with rfl | rfl
    · cases hb
    · rw [List.mem_singleton.mp hb]
      decide
  · obtain ⟨d, -, rfl⟩ := List.mem_map.mp hb
    exact hdigit d

/-! ## Reading -/

/-- A response has a size exactly if the first value of the field is printable and, without its
blank ends, a numeral of 64 bits. -/
theorem acceptedLength?_eq_some_iff_read {r : Response} {n : Nat} :
    acceptedLength? r = some n ↔ ∃ value, r.headers.get? acceptedLengthField = some value ∧
      value.all isTextByte = true ∧
        Number.natural 10 Number.max64 (trim (value.map character)) = .ok n := by
  rw [acceptedLength?, Response.header?]
  cases r.headers.get? acceptedLengthField with
  | none => simp
  | some value =>
    simp only [Option.bind_some, Option.some.injEq, exists_eq_left', fieldText?]
    split
    · rename_i hall
      rw [Option.bind_some, String.toList_ofList]
      change (Number.natural 10 Number.max64 (trim (value.map character))).toOption = some n ↔ _
      cases Number.natural 10 Number.max64 (trim (value.map character)) with
      | error fault => simp [Except.toOption]
      | ok m => simp [Except.toOption, hall]
    · rename_i hall
      simp [hall]

/-- What is read as a numeral between blanks states the size in its digits. -/
theorem states_of_trim {value : List UInt8} {sign : List Char} {digits : List (Fin 10)}
    (hall : value.all isTextByte = true) (hsign : sign = [] ∨ sign = ['+']) (hdigits : digits ≠ [])
    (h : trim (value.map character) = sign ++ Number.digitChars digits) : States value digits := by
  obtain ⟨front, back, hvalue, hfront, -, hback⟩ := exists_trim (value.map character)
  rw [h, ← map_character_digitBytes] at hvalue
  obtain ⟨first, rest, rfl, rfl, hrest⟩ := List.map_eq_append_iff.mp hvalue
  obtain ⟨middle, last, rfl, hmiddle, rfl⟩ := List.map_eq_append_iff.mp hrest
  obtain ⟨plus, numeral, rfl, rfl, hnumeral⟩ := List.map_eq_append_iff.mp hmiddle
  obtain rfl := map_character_inj hnumeral
  have hpad : ∀ bytes ⊆ first ++ ((plus ++ digitBytes digits) ++ last),
      (∀ c ∈ bytes.map character, isBlank c = true) → ∀ b ∈ bytes, IsPad b := by
    intro bytes hbytes hblank b hb
    exact isPad_of_isBlank (List.all_eq_true.mp hall b (hbytes hb))
      (hblank _ (List.mem_map_of_mem hb))
  refine ⟨hdigits, first, plus, last, rfl, hpad first (by simp) hfront, ?_, hpad last ?_ hback⟩
  · rcases hsign with hnil | hplus
    · exact Or.inl (List.map_eq_nil_iff.mp hnil)
    · exact Or.inr (map_character_inj hplus)
  · intro b hb
    simp [hb]

/-- A value that states a size is printable, and a numeral without its blank ends. -/
theorem States.trim_eq {value : List UInt8} {digits : List (Fin 10)} (h : States value digits) :
    value.all isTextByte = true ∧ ∃ sign, (sign = [] ∨ sign = ['+']) ∧
      trim (value.map character) = sign ++ Number.digitChars digits := by
  obtain ⟨-, front, sign, back, rfl, hfront, hsign, hback⟩ := h
  refine ⟨?_, sign.map character, ?_, ?_⟩
  · simp only [List.all_append, Bool.and_eq_true, List.all_eq_true]
    have hnumeral : ∀ b ∈ sign ++ digitBytes digits, isTextByte b = true :=
      fun b hb => (of_mem_numeral hsign hb).1
    refine ⟨fun b hb => (hfront b hb).isTextByte, ⟨?_, ?_⟩, fun b hb => (hback b hb).isTextByte⟩
    · exact fun b hb => hnumeral b (List.mem_append_left _ hb)
    · exact fun b hb => hnumeral b (List.mem_append_right _ hb)
  · rcases hsign with rfl | rfl
    · exact Or.inl rfl
    · exact Or.inr (by decide)
  · have hblank : ∀ {bytes : List UInt8}, (∀ b ∈ bytes, IsPad b) →
        ∀ c ∈ bytes.map character, isBlank c = true := by
      intro bytes hbytes c hc
      obtain ⟨b, hb, rfl⟩ := List.mem_map.mp hc
      exact (hbytes b hb).isBlank
    have hmiddle : Edged isBlank ((sign ++ digitBytes digits).map character) := by
      refine edged_of_forall fun c hc => ?_
      obtain ⟨b, hb, rfl⟩ := List.mem_map.mp hc
      exact (of_mem_numeral hsign hb).2
    rw [List.map_append, List.map_append, trim_append (hblank hfront) hmiddle (hblank hback),
      List.map_append, map_character_digitBytes]

/-! ## Results -/

/-- A response has a size exactly if the first value of the field states one of 64 bits. -/
theorem acceptedLength?_eq_some_iff {r : Response} {n : Nat} :
    acceptedLength? r = some n ↔ ∃ value digits,
      r.headers.get? acceptedLengthField = some value ∧ States value digits ∧
        number digits = n ∧ n ≤ Number.max64 := by
  rw [acceptedLength?_eq_some_iff_read]
  constructor
  · rintro ⟨value, hvalue, hall, hread⟩
    obtain ⟨sign, digits, hsign, hdigits, htrim, hn, hmax⟩ := Number.natural_eq_ok_iff.mp hread
    refine ⟨value, digits, hvalue, states_of_trim hall hsign hdigits htrim, ?_, hmax⟩
    rw [number_eq_valueFrom, hn]
  · rintro ⟨value, digits, hvalue, hstates, hn, hmax⟩
    obtain ⟨hall, sign, hsign, htrim⟩ := hstates.trim_eq
    refine ⟨value, hvalue, hall, Number.natural_eq_ok_iff.mpr ⟨sign, digits, hsign,
      hstates.digits_ne, htrim, ?_, hmax⟩⟩
    rw [← number_eq_valueFrom, hn]

/-- A value states one size. -/
theorem States.number_eq {value : List UInt8} {digits digits' : List (Fin 10)}
    (h : States value digits) (h' : States value digits') : number digits = number digits' := by
  -- Within a limit that both numbers keep they are read from the same text.
  have hread : ∀ {ds : List (Fin 10)}, States value ds →
      number ds ≤ number digits + number digits' →
      Number.natural 10 (number digits + number digits') (trim (value.map character)) =
        .ok (number ds) := by
    intro ds hds hle
    obtain ⟨-, sign, hsign, htrim⟩ := hds.trim_eq
    exact Number.natural_eq_ok_iff.mpr
      ⟨sign, ds, hsign, hds.digits_ne, htrim, (number_eq_valueFrom ds).symm, hle⟩
  have hfirst := hread h (by omega)
  rw [hread h' (by omega)] at hfirst
  exact (Except.ok.inj hfirst).symm

/-- The size is read exactly: it is the number of the digits that the first value of the field
states, as long as this is a number of 64 bits, and beyond that there is no size, not another
one. -/
theorem acceptedLength?_exact (r : Response) :
    (∀ n, acceptedLength? r = some n ↔ ∃ value digits,
      r.headers.get? acceptedLengthField = some value ∧ States value digits ∧
        number digits = n ∧ n < 2 ^ 64) ∧
      ∀ value digits, r.headers.get? acceptedLengthField = some value → States value digits →
        2 ^ 64 ≤ number digits → acceptedLength? r = none := by
  have hmax : ∀ n, n ≤ Number.max64 ↔ n < 2 ^ 64 := by
    intro n
    rw [Number.max64]
    omega
  have hsome : ∀ n, acceptedLength? r = some n ↔ ∃ value digits,
      r.headers.get? acceptedLengthField = some value ∧ States value digits ∧
        number digits = n ∧ n < 2 ^ 64 := by
    intro n
    simp only [acceptedLength?_eq_some_iff, hmax]
  refine ⟨hsome, fun value digits hvalue hstates hlarge => ?_⟩
  cases hread : acceptedLength? r with
  | none => rfl
  | some n =>
    obtain ⟨value', digits', hvalue', hstates', hn, hlt⟩ := (hsome n).mp hread
    obtain rfl := Option.some.inj (hvalue.symm.trans hvalue')
    have heq := hstates.number_eq hstates'
    omega

/-- A response in which the field has two values, of which the second one does not count. -/
def limited (value : String) : Response where
  status := 204
  headers := .ofList [(acceptedLengthField, Utf8.bytes value), (acceptedLengthField, Utf8.bytes "7")]

/-- The digits of the first number beyond 64 bits, behind two zeros. -/
def beyond : List (Fin 10) :=
  [0, 0, 1, 8, 4, 4, 6, 7, 4, 4, 0, 7, 3, 7, 0, 9, 5, 5, 1, 6, 1, 6]

/-- The first number beyond 64 bits is not read, with a plus sign and zeros in front of it; the
one before it is. -/
theorem acceptedLength?_exact_beyond :
    States (Utf8.bytes "\t+0018446744073709551616 ") beyond ∧ number beyond = 2 ^ 64 ∧
      acceptedLength? (limited "\t+0018446744073709551616 ") = none ∧
      acceptedLength? (limited "\t+0018446744073709551615 ") = some (2 ^ 64 - 1) := by
  have hfirst : ∀ value, (limited value).headers.get? acceptedLengthField =
      some (Utf8.bytes value) := by
    intro value
    simp [limited, Headers.ofList, Headers.append, Headers.get?, Headers.getAll]
  have hstates : States (Utf8.bytes "\t+0018446744073709551616 ") beyond :=
    ⟨by decide, [0x09], [0x2B], [0x20], by decide +kernel, by simp [IsPad], by decide,
      by simp [IsPad]⟩
  have hbeyond : number beyond = 2 ^ 64 := by
    rw [number_eq_valueFrom]
    decide
  refine ⟨hstates, hbeyond, ?_, ?_⟩
  · exact (acceptedLength?_exact (limited "\t+0018446744073709551616 ")).2 _ beyond (hfirst _)
      hstates (by omega)
  · refine ((acceptedLength?_exact (limited "\t+0018446744073709551615 ")).1 _).mpr
      ⟨_, beyond.dropLast ++ [5], hfirst _, ?_, ?_, by omega⟩
    · exact ⟨by decide, [0x09], [0x2B], [0x20], by decide +kernel, by simp [IsPad], by decide,
        by simp [IsPad]⟩
    · rw [number_eq_valueFrom]
      decide

end FormFetch.OpenRosa
