import FormFetch.Proofs.Bytes.Hex
import FormFetch.Text.Number

/-!
# Decimal numbers are read back

A number within the limit is read from its decimal digits.

* `accumulate_append` and `accumulate_digitChar` read a last digit after the others.
* `natural_toDigits` is the result, and `toDigits_inj` follows from it.
* `accumulate_eq_ok_iff`, `natural_eq_ok_iff` and `integer_eq_ok_iff` say everything that is
  read as a number.
-/

namespace FormFetch.Text.Number

theorem digit?_digitChar {d : Nat} (h : d < 10) : digit? 10 (Nat.digitChar d) = some d := by
  have hvalue : Bytes.hexValue? (Nat.digitChar d) = some d := by
    rw [Bytes.digitChar_eq_hexDigit d (by omega), Bytes.hexValue?_hexDigit d (by omega)]
  rw [digit?, hvalue, Option.filter_some, if_pos (decide_eq_true h)]

section Digits

variable {limit : Nat} {beyond : Fault}

theorem accumulate_append (sum : Nat) (cs ds : List Char) :
    accumulate 10 limit beyond sum (cs ++ ds) =
      (accumulate 10 limit beyond sum cs).bind fun n => accumulate 10 limit beyond n ds := by
  induction cs generalizing sum with
  | nil => rfl
  | cons c rest ih =>
    rw [List.cons_append, accumulate, accumulate]
    cases digit? 10 c with
    | none => rfl
    | some d =>
      by_cases hlimit : limit < sum * 10 + d
      · simp only [if_pos hlimit]
        rfl
      · simp only [if_neg hlimit]
        exact ih _

theorem accumulate_digitChar {sum d : Nat} (hd : d < 10) (h : sum * 10 + d ≤ limit) :
    accumulate 10 limit beyond sum [Nat.digitChar d] = .ok (sum * 10 + d) := by
  rw [accumulate, digit?_digitChar hd]
  exact if_neg (Nat.not_lt.mpr h)

theorem accumulate_toDigits {n : Nat} (h : n ≤ limit) :
    accumulate 10 limit beyond 0 (Nat.toDigits 10 n) = .ok n := by
  induction n using Nat.strongRecOn with
  | ind n ih =>
    by_cases hn : n < 10
    · rw [Nat.toDigits_of_lt_base hn, accumulate_digitChar hn (by omega)]
      congr 1
      omega
    · have hlast : n % 10 < 10 := Nat.mod_lt n (by omega)
      have hinit := ih (n / 10) (by omega) (by omega)
      have hsum : n / 10 * 10 + n % 10 = n := by omega
      rw [Nat.toDigits_of_base_le (by omega) (by omega), accumulate_append, hinit, Except.bind,
        accumulate_digitChar hlast (by omega), hsum]

end Digits

/-- A number within the limit is read back. -/
theorem natural_toDigits {limit n : Nat} (h : n ≤ limit) :
    natural 10 limit (Nat.toDigits 10 n) = .ok n := by
  have hdigits : ∀ c ∈ Nat.toDigits 10 n, c.isDigit = true := fun c hc =>
    Nat.isDigit_of_mem_toDigits (by omega) (by omega) hc
  rw [natural.eq_def]
  split
  · rename_i hnil
    exact absurd hnil Nat.toDigits_ne_nil
  · rename_i hplus
    exact absurd (hdigits '+' (by simp [hplus])) (by decide)
  · rename_i hminus
    exact absurd (hdigits '-' (by simp [hminus])) (by decide)
  · rename_i rest _ hplus
    exact absurd (hdigits '+' (by simp [hplus])) (by decide)
  · exact accumulate_toDigits h

/-- Numbers are known from their digits. -/
theorem toDigits_inj {n m : Nat} (h : Nat.toDigits 10 n = Nat.toDigits 10 m) : n = m := by
  have hn : natural 10 (n + m) (Nat.toDigits 10 n) = .ok n :=
    natural_toDigits (by omega)
  have hm : natural 10 (n + m) (Nat.toDigits 10 m) = .ok m :=
    natural_toDigits (by omega)
  rw [h, hm] at hn
  exact (Except.ok.inj hn).symm

theorem notMem_toDigits {c : Char} (hc : c.isDigit = false) (n : Nat) :
    c ∉ Nat.toDigits 10 n := by
  intro hmem
  have hdigit := Nat.isDigit_of_mem_toDigits (by omega) (by omega) hmem
  rw [hc] at hdigit
  cases hdigit

/-! ## All numerals -/

/-- The characters of decimal digits. -/
def digitChars (digits : List (Fin 10)) : List Char :=
  digits.map fun d : Fin 10 => Nat.digitChar d

/-- The number of some digits in front of which stand digits worth `sum`. -/
def valueFrom (sum : Nat) (digits : List (Fin 10)) : Nat :=
  digits.foldl (fun n (d : Fin 10) => n * 10 + d) sum

theorem digitChar_of_digit? {c : Char} {d : Nat} (h : digit? 10 c = some d) :
    d < 10 ∧ Nat.digitChar d = c := by
  obtain ⟨hvalue, hd⟩ := Option.filter_eq_some_iff.mp h
  rw [decide_eq_true_eq] at hd
  refine ⟨hd, ?_⟩
  simp only [Bytes.hexValue?, Bool.and_eq_true, decide_eq_true_eq] at hvalue
  split at hvalue
  · obtain rfl := Option.some.inj hvalue
    rw [Bytes.digitChar_eq_hexDigit _ (by omega), Bytes.hexDigit, if_pos hd]
    have hcode : '0'.toNat + (c.toNat - 48) = c.toNat := by
      change 48 + (c.toNat - 48) = c.toNat
      omega
    rw [hcode, Char.ofNat_toNat]
  · split at hvalue
    · obtain rfl := Option.some.inj hvalue
      omega
    · split at hvalue
      · obtain rfl := Option.some.inj hvalue
        omega
      · cases hvalue

theorem le_valueFrom (sum : Nat) (digits : List (Fin 10)) : sum ≤ valueFrom sum digits := by
  induction digits generalizing sum with
  | nil => exact Nat.le_refl sum
  | cons d rest ih =>
    have hrest := ih (sum * 10 + d)
    change sum ≤ valueFrom (sum * 10 + d) rest
    omega

/-- A text is read as a number exactly if it consists of the digits of the number, with zeros in
front of them or not, and the number is within the limit. -/
theorem accumulate_eq_ok_iff {limit sum n : Nat} {beyond : Fault} {cs : List Char}
    (hsum : sum ≤ limit) :
    accumulate 10 limit beyond sum cs = .ok n ↔
      ∃ digits, cs = digitChars digits ∧ valueFrom sum digits = n ∧ n ≤ limit := by
  induction cs generalizing sum with
  | nil =>
    constructor
    · intro h
      obtain rfl := Except.ok.inj h
      exact ⟨[], rfl, rfl, hsum⟩
    · rintro ⟨digits, hcs, rfl, -⟩
      obtain rfl := List.map_eq_nil_iff.mp hcs.symm
      rfl
  | cons c rest ih =>
    constructor
    · intro h
      rw [accumulate] at h
      split at h
      · cases h
      · rename_i d hd
        obtain ⟨hlt, rfl⟩ := digitChar_of_digit? hd
        split at h
        · cases h
        · obtain ⟨digits, rfl, hn, hlimit⟩ := (ih (by omega)).mp h
          exact ⟨⟨d, hlt⟩ :: digits, rfl, hn, hlimit⟩
    · rintro ⟨digits, hcs, hn, hlimit⟩
      obtain ⟨d, digits, rfl, rfl, rfl⟩ := List.map_eq_cons_iff.mp hcs.symm
      have hstep : valueFrom (sum * 10 + d) digits = n := hn
      have hle := le_valueFrom (sum * 10 + d) digits
      rw [accumulate, digit?_digitChar d.isLt]
      simp only
      rw [if_neg (by omega)]
      exact (ih (by omega)).mpr ⟨digits, rfl, hstep, hlimit⟩

theorem digitChar_ne_sign : ∀ d < 10, Nat.digitChar d ≠ '+' ∧ Nat.digitChar d ≠ '-' := by
  decide

theorem map_accumulate_eq_ok_iff {limit : Nat} {beyond : Fault} {cs : List Char} {f : Int → Int}
    {z : Int} :
    Except.map f (do return ((← accumulate 10 limit beyond 0 cs : Nat) : Int)) = .ok z ↔
      ∃ digits, cs = digitChars digits ∧ z = f (valueFrom 0 digits) ∧
        valueFrom 0 digits ≤ limit := by
  constructor
  · intro h
    cases haccumulate : accumulate 10 limit beyond 0 cs with
    | error fault =>
      rw [haccumulate] at h
      cases h
    | ok n =>
      rw [haccumulate] at h
      obtain rfl := Except.ok.inj h
      obtain ⟨digits, hcs, rfl, hlimit⟩ := (accumulate_eq_ok_iff (Nat.zero_le _)).mp haccumulate
      exact ⟨digits, hcs, rfl, hlimit⟩
  · rintro ⟨digits, hcs, rfl, hlimit⟩
    rw [(accumulate_eq_ok_iff (Nat.zero_le _)).mpr ⟨digits, hcs, rfl, hlimit⟩]
    rfl

/-- An unsigned numeral is some digits, with a plus sign or without, of a number within the
limit. -/
theorem natural_eq_ok_iff {limit n : Nat} {cs : List Char} :
    natural 10 limit cs = .ok n ↔ ∃ sign digits, (sign = [] ∨ sign = ['+']) ∧ digits ≠ [] ∧
      cs = sign ++ digitChars digits ∧ valueFrom 0 digits = n ∧ n ≤ limit := by
  constructor
  · intro h
    rw [natural.eq_def] at h
    split at h
    · cases h
    · cases h
    · cases h
    · rename_i rest hrest
      obtain ⟨digits, rfl, hn, hlimit⟩ := (accumulate_eq_ok_iff (Nat.zero_le _)).mp h
      refine ⟨['+'], digits, Or.inr rfl, ?_, rfl, hn, hlimit⟩
      rintro rfl
      exact hrest rfl
    · rename_i hnil _ _ _
      obtain ⟨digits, rfl, hn, hlimit⟩ := (accumulate_eq_ok_iff (Nat.zero_le _)).mp h
      refine ⟨[], digits, Or.inl rfl, ?_, rfl, hn, hlimit⟩
      rintro rfl
      exact hnil rfl
  · rintro ⟨sign, digits, hsign, hdigits, rfl, hn, hlimit⟩
    obtain ⟨d, rest, rfl⟩ := List.exists_cons_of_ne_nil hdigits
    have hread : accumulate 10 limit .tooLarge 0 (digitChars (d :: rest)) = .ok n :=
      (accumulate_eq_ok_iff (Nat.zero_le _)).mpr ⟨d :: rest, rfl, hn, hlimit⟩
    rcases hsign with rfl | rfl
    · obtain ⟨hplus, hminus⟩ := digitChar_ne_sign d d.isLt
      rw [List.nil_append, digitChars, List.map_cons, natural]
      · exact hread
      · exact List.cons_ne_nil _ _
      · exact fun h => hplus (List.cons.inj h).1
      · exact fun h => hminus (List.cons.inj h).1
      · exact fun _ h => hplus (List.cons.inj h).1
    · rw [List.singleton_append, natural]
      · exact hread
      · exact List.cons_ne_nil _ _

/-- A signed numeral is some digits with a sign or none; with a minus sign it reaches one
further. -/
theorem integer_eq_ok_iff {limit : Nat} {cs : List Char} {z : Int} :
    integer limit cs = .ok z ↔ ∃ sign digits, digits ≠ [] ∧ cs = sign ++ digitChars digits ∧
      ((sign = [] ∨ sign = ['+']) ∧ z = valueFrom 0 digits ∧ valueFrom 0 digits ≤ limit ∨
        sign = ['-'] ∧ z = -(valueFrom 0 digits : Int) ∧ valueFrom 0 digits ≤ limit + 1) := by
  constructor
  · intro h
    rw [integer.eq_def] at h
    split at h
    · cases h
    · cases h
    · cases h
    · rename_i rest hrest
      obtain ⟨digits, rfl, hz, hlimit⟩ := map_accumulate_eq_ok_iff.mp h
      refine ⟨['-'], digits, ?_, rfl, Or.inr ⟨rfl, hz, hlimit⟩⟩
      rintro rfl
      exact hrest rfl
    · rename_i rest hrest
      obtain ⟨digits, rfl, hz, hlimit⟩ := map_accumulate_eq_ok_iff.mp h
      refine ⟨['+'], digits, ?_, rfl, Or.inl ⟨Or.inr rfl, hz, hlimit⟩⟩
      rintro rfl
      exact hrest rfl
    · rename_i hnil _ _ _ _
      obtain ⟨digits, rfl, hz, hlimit⟩ := map_accumulate_eq_ok_iff.mp h
      refine ⟨[], digits, ?_, rfl, Or.inl ⟨Or.inl rfl, hz, hlimit⟩⟩
      rintro rfl
      exact hnil rfl
  · rintro ⟨sign, digits, hdigits, rfl, hsign⟩
    obtain ⟨d, rest, rfl⟩ := List.exists_cons_of_ne_nil hdigits
    rcases hsign with ⟨rfl | rfl, hz, hlimit⟩ | ⟨rfl, hz, hlimit⟩
    · obtain ⟨hplus, hminus⟩ := digitChar_ne_sign d d.isLt
      rw [List.nil_append, digitChars, List.map_cons, integer]
      · exact map_accumulate_eq_ok_iff.mpr ⟨d :: rest, rfl, hz, hlimit⟩
      · exact List.cons_ne_nil _ _
      · exact fun h => hplus (List.cons.inj h).1
      · exact fun h => hminus (List.cons.inj h).1
      · exact fun _ h => hminus (List.cons.inj h).1
      · exact fun _ h => hplus (List.cons.inj h).1
    · rw [List.singleton_append, integer]
      · exact map_accumulate_eq_ok_iff.mpr ⟨d :: rest, rfl, hz, hlimit⟩
      · exact List.cons_ne_nil _ _
    · rw [List.singleton_append, integer]
      · exact map_accumulate_eq_ok_iff.mpr ⟨d :: rest, rfl, hz, hlimit⟩
      · exact List.cons_ne_nil _ _

end FormFetch.Text.Number
