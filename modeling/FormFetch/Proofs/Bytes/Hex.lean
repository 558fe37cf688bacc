import FormFetch.Bytes.Hex

/-!
# Hexadecimal numbers are read back

The digits of bytes and numbers, and a reader of numbers beside the writer.

* `exists_hexDigit_of_mem` says that there is nothing but digits.
* `hexNumber?_hexPadded` and `length_hexPadded` say that padded numbers come back and
  keep their width.
-/

namespace FormFetch.Bytes

/-! ## Digits -/

theorem hexValue?_hexDigit : ∀ d < 16, hexValue? (hexDigit d) = some d := by
  decide

theorem digitChar_eq_hexDigit : ∀ d < 16, Nat.digitChar d = hexDigit d := by
  decide

theorem exists_hexDigit_of_mem {bytes : List UInt8} {c : Char} (h : c ∈ hexChars bytes) :
    ∃ d < 16, c = hexDigit d := by
  obtain ⟨b, -, hc⟩ := List.mem_flatMap.mp h
  have hb := b.toNat_lt
  simp only [List.mem_cons, List.not_mem_nil, or_false] at hc
  rcases hc with rfl | rfl
  · exact ⟨_, by omega, rfl⟩
  · exact ⟨_, by omega, rfl⟩

theorem hexOfNat_of_lt {n : Nat} (h : n < 16) : hexOfNat n = [hexDigit n] := by
  rw [hexOfNat, Nat.toDigits_of_lt_base h, digitChar_eq_hexDigit n h]

theorem hexOfNat_of_le {n : Nat} (h : 16 ≤ n) :
    hexOfNat n = hexOfNat (n / 16) ++ [hexDigit (n % 16)] := by
  rw [hexOfNat, Nat.toDigits_of_base_le (by omega) h,
    digitChar_eq_hexDigit _ (Nat.mod_lt n (by omega)), hexOfNat]

theorem exists_hexDigit_of_mem_hexOfNat {n : Nat} {c : Char} (h : c ∈ hexOfNat n) :
    ∃ d < 16, c = hexDigit d := by
  induction n using Nat.strongRecOn with
  | ind n ih =>
    by_cases hn : n < 16
    · rw [hexOfNat_of_lt hn, List.mem_singleton] at h
      exact ⟨n, hn, h⟩
    · rw [hexOfNat_of_le (by omega), List.mem_append, List.mem_singleton] at h
      rcases h with h | h
      · exact ih (n / 16) (by omega) h
      · exact ⟨n % 16, by omega, h⟩

theorem hexOfNat_ne_nil (n : Nat) : hexOfNat n ≠ [] :=
  Nat.toDigits_ne_nil

theorem notMem_hexOfNat {c : Char} (hc : ∀ d < 16, hexDigit d ≠ c) (n : Nat) :
    c ∉ hexOfNat n := by
  intro hmem
  obtain ⟨d, hd, hdigit⟩ := exists_hexDigit_of_mem_hexOfNat hmem
  exact hc d hd hdigit.symm

theorem exists_hexDigit_of_mem_hexPadded {width n : Nat} {c : Char} (h : c ∈ hexPadded width n) :
    ∃ d < 16, c = hexDigit d := by
  rw [hexPadded, List.mem_append] at h
  rcases h with h | h
  · exact ⟨0, by omega, List.eq_of_mem_replicate h⟩
  · exact exists_hexDigit_of_mem_hexOfNat h

/-! ## Numbers -/

/-- Reads digits after a number that was read already. -/
def readHex (n : Nat) : List Char → Option Nat
  | [] => some n
  | c :: rest => (hexValue? c).bind fun d => readHex (16 * n + d) rest

/-- The number of some hexadecimal digits. -/
def hexNumber? (cs : List Char) : Option Nat :=
  readHex 0 cs

theorem readHex_append (n : Nat) (cs ds : List Char) :
    readHex n (cs ++ ds) = (readHex n cs).bind fun m => readHex m ds := by
  induction cs generalizing n with
  | nil => rfl
  | cons c rest ih =>
    rw [List.cons_append, readHex, readHex]
    cases hexValue? c with
    | none => rfl
    | some d => exact ih _

theorem readHex_hexDigit (n : Nat) {d : Nat} (h : d < 16) :
    readHex n [hexDigit d] = some (16 * n + d) := by
  rw [readHex, hexValue?_hexDigit d h]
  rfl

theorem hexNumber?_hexOfNat (n : Nat) : hexNumber? (hexOfNat n) = some n := by
  induction n using Nat.strongRecOn with
  | ind n ih =>
    by_cases hn : n < 16
    · rw [hexOfNat_of_lt hn, hexNumber?, readHex_hexDigit 0 hn]
      congr 1
      omega
    · have hrest : readHex 0 (hexOfNat (n / 16)) = some (n / 16) := ih (n / 16) (by omega)
      rw [hexOfNat_of_le (by omega), hexNumber?, readHex_append, hrest, Option.bind_some,
        readHex_hexDigit _ (Nat.mod_lt n (by omega))]
      congr 1
      omega

/-- Numbers are known from their digits. -/
theorem hexOfNat_inj {n m : Nat} (h : hexOfNat n = hexOfNat m) : n = m := by
  have hn := hexNumber?_hexOfNat n
  rw [h, hexNumber?_hexOfNat] at hn
  exact (Option.some.inj hn).symm

theorem readHex_zeros (k : Nat) : readHex 0 (List.replicate k '0') = some 0 := by
  induction k with
  | zero => rfl
  | succ k ih =>
    rw [List.replicate_succ]
    exact ih

/-- A padded number is read back. -/
theorem hexNumber?_hexPadded (width n : Nat) : hexNumber? (hexPadded width n) = some n := by
  rw [hexPadded, hexNumber?, readHex_append, readHex_zeros, Option.bind_some]
  exact hexNumber?_hexOfNat n

/-- A number that fits keeps the width. -/
theorem length_hexPadded {width n : Nat} (h : (hexOfNat n).length ≤ width) :
    (hexPadded width n).length = width := by
  simp only [hexPadded, List.length_append, List.length_replicate]
  omega

end FormFetch.Bytes
