import FormFetch.Bytes.Base64
import FormFetch.Proofs.Text.Utf8

/-!
# Base64 is read back

The reader and the writer are inverse to each other: every byte sequence comes back, and no
other text than the one that is written for it is read as it.

* `value?_eq_some_iff`: a character is worth a value exactly if it is the digit of this value.
* `decode_encode` goes by groups of three bytes, `encode_of_decode` by groups of four
  characters.
* `decode_eq_some_iff` is the result.
-/

namespace FormFetch.Bytes.Base64

open FormFetch.Text.Utf8 (toNat_toUInt8 toUInt8_eq)

/-! ## Digits -/

theorem value?_digit : ∀ n < 64, value? (digit n) = some n := by
  decide

theorem digit_ne_pad : ∀ n < 64, digit n ≠ '=' := by
  decide

theorem value?_eq_some_iff {c : Char} {n : Nat} : value? c = some n ↔ n < 64 ∧ c = digit n := by
  constructor
  · intro h
    have hcode : ∀ m, c.toNat = m → c = Char.ofNat m := fun m hm => by
      rw [← hm, Char.ofNat_toNat]
    simp only [value?, Bool.and_eq_true, decide_eq_true_eq] at h
    split at h
    · obtain rfl := Option.some.inj h
      refine ⟨by omega, ?_⟩
      rw [digit, if_pos (by omega)]
      exact hcode _ (by omega)
    · split at h
      · obtain rfl := Option.some.inj h
        refine ⟨by omega, ?_⟩
        rw [digit, if_neg (by omega), if_pos (by omega)]
        exact hcode _ (by omega)
      · split at h
        · obtain rfl := Option.some.inj h
          refine ⟨by omega, ?_⟩
          rw [digit, if_neg (by omega), if_neg (by omega), if_pos (by omega)]
          exact hcode _ (by omega)
        · split at h
          · obtain rfl := Option.some.inj h
            exact ⟨by omega, by assumption⟩
          · split at h
            · obtain rfl := Option.some.inj h
              exact ⟨by omega, by assumption⟩
            · cases h
  · rintro ⟨hn, rfl⟩
    exact value?_digit n hn

/-! ## Groups -/

/-- A group whose last character is a digit stands for three bytes. -/
theorem decode_cons {p q r s : Nat} (rest : List Char) (hp : p < 64) (hq : q < 64) (hr : r < 64)
    (hs : s < 64) :
    decode (digit p :: digit q :: digit r :: digit s :: rest) =
      (decode rest).map fun tail => (p * 4 + q / 16).toUInt8 ::
        (q % 16 * 16 + r / 4).toUInt8 :: (r % 4 * 64 + s).toUInt8 :: tail := by
  have hpad := digit_ne_pad s hs
  rw [decode]
  · simp only [value?_digit p hp, value?_digit q hq, value?_digit r hr, value?_digit s hs]
    cases decode rest <;> rfl
  · intro _ hlast _
    exact hpad hlast
  · intro hlast _
    exact hpad hlast

/-- Every byte sequence is read back. -/
theorem decode_encode (bytes : List UInt8) : decode (encode bytes) = some bytes := by
  induction bytes using encode.induct with
  | case1 => rfl
  | case2 a =>
    have ha := a.toNat_lt
    have hlow : a.toNat % 4 * 16 % 16 = 0 := by omega
    rw [encode, decode, value?_digit _ (by omega), value?_digit _ (by omega)]
    simp only [Option.bind_eq_bind, Option.bind_some, if_pos hlow]
    rw [toUInt8_eq (b := a) (by omega)]
  | case3 a b =>
    have ha := a.toNat_lt
    have hb := b.toNat_lt
    have hlow : b.toNat % 16 * 4 % 4 = 0 := by omega
    have hpad := digit_ne_pad (b.toNat % 16 * 4) (by omega)
    rw [encode, decode, value?_digit _ (by omega), value?_digit _ (by omega),
      value?_digit _ (by omega)]
    · simp only [Option.bind_eq_bind, Option.bind_some, if_pos hlow]
      rw [toUInt8_eq (b := a) (by omega), toUInt8_eq (b := b) (by omega)]
    · exact hpad
  | case4 a b c rest ih =>
    have ha := a.toNat_lt
    have hb := b.toNat_lt
    have hc := c.toNat_lt
    rw [encode, decode_cons _ (by omega) (by omega) (by omega) (by omega), ih, Option.map_some,
      toUInt8_eq (b := a) (by omega), toUInt8_eq (b := b) (by omega),
      toUInt8_eq (b := c) (by omega)]

/-- A text that is read is the one that is written for its bytes. -/
theorem encode_of_decode {cs : List Char} {bytes : List UInt8} (h : decode cs = some bytes) :
    encode bytes = cs := by
  induction cs using decode.induct generalizing bytes with
  | case1 =>
    rw [decode] at h
    obtain rfl := Option.some.inj h
    rfl
  | case2 p q =>
    simp only [decode, Option.bind_eq_bind, Option.bind_eq_some_iff, value?_eq_some_iff,
      Option.ite_none_right_eq_some] at h
    obtain ⟨m, ⟨hm, rfl⟩, n, ⟨hn, rfl⟩, hlow, h⟩ := h
    obtain rfl := Option.some.inj h
    have hfirst : (m * 4 + n / 16).toUInt8.toNat = m * 4 + n / 16 := toNat_toUInt8 (by omega)
    have hp : (m * 4 + n / 16) / 4 = m := by omega
    have hq : (m * 4 + n / 16) % 4 * 16 = n := by omega
    rw [encode, hfirst, hp, hq]
  | case3 p q r hr =>
    simp only [decode, Option.bind_eq_bind, Option.bind_eq_some_iff, value?_eq_some_iff,
      Option.ite_none_right_eq_some] at h
    obtain ⟨m, ⟨hm, rfl⟩, n, ⟨hn, rfl⟩, o, ⟨ho, rfl⟩, hlow, h⟩ := h
    obtain rfl := Option.some.inj h
    have hfirst : (m * 4 + n / 16).toUInt8.toNat = m * 4 + n / 16 := toNat_toUInt8 (by omega)
    have hsecond : (n % 16 * 16 + o / 4).toUInt8.toNat = n % 16 * 16 + o / 4 :=
      toNat_toUInt8 (by omega)
    have hp : (m * 4 + n / 16) / 4 = m := by omega
    have hq : (m * 4 + n / 16) % 4 * 16 + (n % 16 * 16 + o / 4) / 16 = n := by omega
    have hr : (n % 16 * 16 + o / 4) % 16 * 4 = o := by omega
    rw [encode, hfirst, hsecond, hp, hq, hr]
  | case4 p q r s rest hpad hpad' ih =>
    simp only [decode, Option.bind_eq_bind, Option.bind_eq_some_iff, value?_eq_some_iff] at h
    obtain ⟨m, ⟨hm, rfl⟩, n, ⟨hn, rfl⟩, o, ⟨ho, rfl⟩, v, ⟨hv, rfl⟩, tail, htail, h⟩ := h
    obtain rfl := Option.some.inj h
    have hfirst : (m * 4 + n / 16).toUInt8.toNat = m * 4 + n / 16 := toNat_toUInt8 (by omega)
    have hsecond : (n % 16 * 16 + o / 4).toUInt8.toNat = n % 16 * 16 + o / 4 :=
      toNat_toUInt8 (by omega)
    have hthird : (o % 4 * 64 + v).toUInt8.toNat = o % 4 * 64 + v := toNat_toUInt8 (by omega)
    have hp : (m * 4 + n / 16) / 4 = m := by omega
    have hq : (m * 4 + n / 16) % 4 * 16 + (n % 16 * 16 + o / 4) / 16 = n := by omega
    have hr : (n % 16 * 16 + o / 4) % 16 * 4 + (o % 4 * 64 + v) / 64 = o := by omega
    have hs : (o % 4 * 64 + v) % 64 = v := by omega
    rw [encode, hfirst, hsecond, hthird, ih htail, hp, hq, hr, hs]
  | case5 cs hnil hone htwo hthree =>
    rw [decode] at h
    · cases h
    · exact hnil
    · exact hone
    · exact htwo
    · exact hthree

theorem decode_eq_some_iff {cs : List Char} {bytes : List UInt8} :
    decode cs = some bytes ↔ encode bytes = cs := by
  constructor
  · exact encode_of_decode
  · rintro rfl
    exact decode_encode bytes

end FormFetch.Bytes.Base64
