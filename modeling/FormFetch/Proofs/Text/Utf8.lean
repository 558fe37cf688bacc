import FormFetch.Text.Utf8

/-!
# UTF-8 is read back

What `Utf8.encode` writes, `Utf8.decode` reads: the bytes of a text are the bytes of no
other text.

* `head_encodeChar` reads one character, by the number of its bytes.
* `decode_encode` and `string?_bytes` are the results for texts and strings.
* `head_cases` says everything that is read as one character.
* `decode_eq_ok_iff`: nothing else is read as a text than the bytes of it.
* `decodeFrom_append_char`: a character at the end is read as one, whatever is in front.
-/

namespace FormFetch.Text.Utf8

/-! ## Bytes of small numbers -/

theorem toNat_toUInt8 {n : Nat} (h : n < 256) : n.toUInt8.toNat = n := by
  rw [Nat.toUInt8_eq, UInt8.toNat_ofNat']
  omega

theorem isTail_toUInt8 {n : Nat} (h : n < 64) : isTail (0x80 + n).toUInt8 = true := by
  have hn : (0x80 + n).toUInt8.toNat = 0x80 + n := toNat_toUInt8 (by omega)
  simp only [isTail, UInt8.le_iff_toNat_le, hn, UInt8.reduceToNat, Bool.and_eq_true,
    decide_eq_true_eq]
  omega

theorem low_toUInt8 {n : Nat} (h : n < 64) : low (0x80 + n).toUInt8 = n := by
  have hn : (0x80 + n).toUInt8.toNat = 0x80 + n := toNat_toUInt8 (by omega)
  rw [low, hn]
  omega

theorem secondOfThree_toUInt8 {n : Nat} (h1 : 0x800 ≤ n) (h2 : n < 0x10000)
    (hn : n < 0xD800 ∨ 0xDFFF < n) :
    secondOfThree (0xE0 + n / 4096).toUInt8 (0x80 + n / 64 % 64).toUInt8 = true := by
  have ha : (0xE0 + n / 4096).toUInt8.toNat = 0xE0 + n / 4096 := toNat_toUInt8 (by omega)
  have hb : (0x80 + n / 64 % 64).toUInt8.toNat = 0x80 + n / 64 % 64 := toNat_toUInt8 (by omega)
  simp only [secondOfThree, beq_iff_eq, ← UInt8.toNat_inj, ha, UInt8.reduceToNat]
  split
  · simp only [UInt8.le_iff_toNat_le, hb, UInt8.reduceToNat, Bool.and_eq_true, decide_eq_true_eq]
    omega
  · split
    · simp only [UInt8.le_iff_toNat_le, hb, UInt8.reduceToNat, Bool.and_eq_true,
        decide_eq_true_eq]
      omega
    · exact isTail_toUInt8 (by omega)

theorem secondOfFour_toUInt8 {n : Nat} (h1 : 0x10000 ≤ n) (h2 : n < 0x110000) :
    secondOfFour (0xF0 + n / 262144).toUInt8 (0x80 + n / 4096 % 64).toUInt8 = true := by
  have ha : (0xF0 + n / 262144).toUInt8.toNat = 0xF0 + n / 262144 := toNat_toUInt8 (by omega)
  have hb : (0x80 + n / 4096 % 64).toUInt8.toNat = 0x80 + n / 4096 % 64 :=
    toNat_toUInt8 (by omega)
  simp only [secondOfFour, beq_iff_eq, ← UInt8.toNat_inj, ha, UInt8.reduceToNat]
  split
  · simp only [UInt8.le_iff_toNat_le, hb, UInt8.reduceToNat, Bool.and_eq_true, decide_eq_true_eq]
    omega
  · split
    · simp only [UInt8.le_iff_toNat_le, hb, UInt8.reduceToNat, Bool.and_eq_true,
        decide_eq_true_eq]
      omega
    · exact isTail_toUInt8 (by omega)

/-! ## One character -/

section Head

variable {n : Nat} (rest : List UInt8)

theorem head_one (h : n < 0x80) : head n.toUInt8 rest = .ok (Char.ofNat n, 0) := by
  have ha : n.toUInt8.toNat = n := toNat_toUInt8 (by omega)
  have hlt : n.toUInt8 < 0x80 := by
    rw [UInt8.lt_iff_toNat_lt, ha]
    exact h
  unfold head
  rw [if_pos hlt, ha]

theorem head_two (h1 : 0x80 ≤ n) (h2 : n < 0x800) :
    head (0xC0 + n / 64).toUInt8 ((0x80 + n % 64).toUInt8 :: rest) = .ok (Char.ofNat n, 1) := by
  have ha : (0xC0 + n / 64).toUInt8.toNat = 0xC0 + n / 64 := toNat_toUInt8 (by omega)
  have hb : isTail (0x80 + n % 64).toUInt8 = true := isTail_toUInt8 (by omega)
  have hlow : low (0x80 + n % 64).toUInt8 = n % 64 := low_toUInt8 (by omega)
  have hn : (0xC0 + n / 64) % 32 * 64 + n % 64 = n := by omega
  have h3 : ¬(0xC0 + n / 64) < 0x80 := by omega
  have h4 : 0xC2 ≤ 0xC0 + n / 64 ∧ 0xC0 + n / 64 ≤ 0xDF := by omega
  simp only [head, UInt8.lt_iff_toNat_lt, UInt8.le_iff_toNat_le, ha, UInt8.reduceToNat, h3, h4,
    hb, hlow, hn, decide_true, Bool.and_true, if_true, if_false]

theorem head_three (h1 : 0x800 ≤ n) (h2 : n < 0x10000) (hs : n < 0xD800 ∨ 0xDFFF < n) :
    head (0xE0 + n / 4096).toUInt8
        ((0x80 + n / 64 % 64).toUInt8 :: (0x80 + n % 64).toUInt8 :: rest) =
      .ok (Char.ofNat n, 2) := by
  have ha : (0xE0 + n / 4096).toUInt8.toNat = 0xE0 + n / 4096 := toNat_toUInt8 (by omega)
  have hb := secondOfThree_toUInt8 h1 h2 hs
  have hc : isTail (0x80 + n % 64).toUInt8 = true := isTail_toUInt8 (by omega)
  have hlow : low (0x80 + n / 64 % 64).toUInt8 = n / 64 % 64 := low_toUInt8 (by omega)
  have hlow' : low (0x80 + n % 64).toUInt8 = n % 64 := low_toUInt8 (by omega)
  have hn : (0xE0 + n / 4096) % 16 * 4096 + n / 64 % 64 * 64 + n % 64 = n := by omega
  have h3 : ¬(0xE0 + n / 4096) < 0x80 := by omega
  have h4 : ¬(0xE0 + n / 4096) ≤ 0xDF := by omega
  have h5 : 0xE0 ≤ 0xE0 + n / 4096 ∧ 0xE0 + n / 4096 ≤ 0xEF := by omega
  simp only [head, UInt8.lt_iff_toNat_lt, UInt8.le_iff_toNat_le, ha, UInt8.reduceToNat, h3, h4,
    h5, hb, hc, hlow, hlow', hn, decide_true, decide_false, Bool.and_true, Bool.and_false,
    Bool.not_true, Bool.false_eq_true, if_true, if_false]

theorem head_four (h1 : 0x10000 ≤ n) (h2 : n < 0x110000) :
    head (0xF0 + n / 262144).toUInt8
        ((0x80 + n / 4096 % 64).toUInt8 :: (0x80 + n / 64 % 64).toUInt8 ::
          (0x80 + n % 64).toUInt8 :: rest) = .ok (Char.ofNat n, 3) := by
  have ha : (0xF0 + n / 262144).toUInt8.toNat = 0xF0 + n / 262144 := toNat_toUInt8 (by omega)
  have hb := secondOfFour_toUInt8 h1 h2
  have hc : isTail (0x80 + n / 64 % 64).toUInt8 = true := isTail_toUInt8 (by omega)
  have hd : isTail (0x80 + n % 64).toUInt8 = true := isTail_toUInt8 (by omega)
  have hlow : low (0x80 + n / 4096 % 64).toUInt8 = n / 4096 % 64 := low_toUInt8 (by omega)
  have hlow' : low (0x80 + n / 64 % 64).toUInt8 = n / 64 % 64 := low_toUInt8 (by omega)
  have hlow'' : low (0x80 + n % 64).toUInt8 = n % 64 := low_toUInt8 (by omega)
  have hn : (0xF0 + n / 262144) % 8 * 262144 + n / 4096 % 64 * 4096 + n / 64 % 64 * 64 +
      n % 64 = n := by omega
  have h3 : ¬(0xF0 + n / 262144) < 0x80 := by omega
  have h4 : ¬(0xF0 + n / 262144) ≤ 0xDF := by omega
  have h5 : ¬(0xF0 + n / 262144) ≤ 0xEF := by omega
  have h6 : 0xF0 ≤ 0xF0 + n / 262144 ∧ 0xF0 + n / 262144 ≤ 0xF4 := by omega
  simp only [head, UInt8.lt_iff_toNat_lt, UInt8.le_iff_toNat_le, ha, UInt8.reduceToNat, h3, h4,
    h5, h6, hb, hc, hd, hlow, hlow', hlow'', hn, decide_true, decide_false, Bool.and_true,
    Bool.and_false, Bool.not_true, Bool.false_eq_true, if_true, if_false]

end Head

/-- The bytes of a character are read as this character, whatever follows them. -/
theorem head_encodeChar (c : Char) (rest : List UInt8) :
    ∃ first more, encodeChar c = first :: more ∧
      head first (more ++ rest) = .ok (c, more.length) := by
  have hvalid : c.toNat < 0xD800 ∨ 0xDFFF < c.toNat ∧ c.toNat < 0x110000 := c.valid
  have hc : Char.ofNat c.toNat = c := Char.ofNat_toNat c
  unfold encodeChar
  dsimp only
  split
  · rename_i h
    exact ⟨_, [], rfl, by rw [List.nil_append, head_one rest h, hc]; rfl⟩
  · split
    · rename_i h1 h2
      exact ⟨_, [_], rfl, by rw [List.singleton_append, head_two rest (by omega) h2, hc]; rfl⟩
    · split
      · rename_i h1 h2 h3
        refine ⟨_, [_, _], rfl, ?_⟩
        rw [List.cons_append, List.singleton_append,
          head_three rest (by omega) h3 (by omega), hc]
        rfl
      · rename_i h1 h2 h3
        refine ⟨_, [_, _, _], rfl, ?_⟩
        rw [List.cons_append, List.cons_append, List.singleton_append,
          head_four rest (by omega) (by omega), hc]
        rfl

/-! ## Texts -/

theorem decodeFrom_encode (cs : List Char) (start : Nat) :
    decodeFrom start (encode cs) = .ok cs := by
  induction cs generalizing start with
  | nil => simp [encode, decodeFrom]
  | cons c rest ih =>
    obtain ⟨first, more, hc, hhead⟩ := head_encodeChar c (encode rest)
    have hencode : encode (c :: rest) = first :: (more ++ encode rest) := by
      rw [encode, List.flatMap_cons, hc]
      rfl
    rw [hencode, decodeFrom, hhead]
    dsimp only
    rw [List.drop_left, ih]

/-- The bytes of a text are read as this text. -/
theorem decode_encode (cs : List Char) : decode (encode cs) = .ok cs :=
  decodeFrom_encode cs 0

@[simp] theorem string?_bytes (s : String) : string? (bytes s) = some s := by
  rw [string?, bytes, decode_encode]
  dsimp only
  rw [String.ofList_toList]

/-! ## The last character -/

theorem isTail_iff {b : UInt8} : isTail b = true ↔ 0x80 ≤ b.toNat ∧ b.toNat ≤ 0xBF := by
  simp only [isTail, Bool.and_eq_true, decide_eq_true_eq, UInt8.le_iff_toNat_le,
    UInt8.reduceToNat]

/-- The second byte of a character continues it, in a range that depends on the first one. -/
theorem isTail_of_secondOfThree {first b : UInt8} (h : secondOfThree first b = true) :
    isTail b = true := by
  unfold secondOfThree at h
  rw [isTail_iff]
  split at h
  · simp only [Bool.and_eq_true, decide_eq_true_eq, UInt8.le_iff_toNat_le, UInt8.reduceToNat] at h
    omega
  · split at h
    · simp only [Bool.and_eq_true, decide_eq_true_eq, UInt8.le_iff_toNat_le,
        UInt8.reduceToNat] at h
      omega
    · exact isTail_iff.mp h

theorem isTail_of_secondOfFour {first b : UInt8} (h : secondOfFour first b = true) :
    isTail b = true := by
  unfold secondOfFour at h
  rw [isTail_iff]
  split at h
  · simp only [Bool.and_eq_true, decide_eq_true_eq, UInt8.le_iff_toNat_le, UInt8.reduceToNat] at h
    omega
  · split at h
    · simp only [Bool.and_eq_true, decide_eq_true_eq, UInt8.le_iff_toNat_le,
        UInt8.reduceToNat] at h
      omega
    · exact isTail_iff.mp h

/-- What is read as a character, by the number of the bytes behind its first one. -/
theorem head_cases {first : UInt8} {rest : List UInt8} {c : Char} {taken : Nat}
    (h : head first rest = .ok (c, taken)) :
    (first.toNat < 0x80 ∧ c = Char.ofNat first.toNat ∧ taken = 0) ∨
    (∃ b more, rest = b :: more ∧ 0xC2 ≤ first.toNat ∧ first.toNat ≤ 0xDF ∧ isTail b = true ∧
      c = Char.ofNat (first.toNat % 32 * 64 + low b) ∧ taken = 1) ∨
    (∃ b d more, rest = b :: d :: more ∧ 0xE0 ≤ first.toNat ∧ first.toNat ≤ 0xEF ∧
      secondOfThree first b = true ∧ isTail d = true ∧
      c = Char.ofNat (first.toNat % 16 * 4096 + low b * 64 + low d) ∧ taken = 2) ∨
    (∃ b d e more, rest = b :: d :: e :: more ∧ 0xF0 ≤ first.toNat ∧ first.toNat ≤ 0xF4 ∧
      secondOfFour first b = true ∧ isTail d = true ∧ isTail e = true ∧
      c = Char.ofNat (first.toNat % 8 * 262144 + low b * 4096 + low d * 64 + low e) ∧
      taken = 3) := by
  simp only [head, UInt8.lt_iff_toNat_lt, UInt8.le_iff_toNat_le, UInt8.reduceToNat,
    Bool.and_eq_true, decide_eq_true_eq] at h
  split at h
  · rename_i hfirst
    cases h
    exact Or.inl ⟨hfirst, rfl, rfl⟩
  · split at h
    · rename_i hfirst
      rcases rest with _ | ⟨b, more⟩
      · cases h
      · dsimp only at h
        split at h
        · rename_i hb
          cases h
          exact Or.inr (Or.inl ⟨b, more, rfl, hfirst.1, hfirst.2, hb, rfl, rfl⟩)
        · cases h
    · split at h
      · rename_i hfirst
        rcases rest with _ | ⟨b, _ | ⟨d, more⟩⟩
        · cases h
        · dsimp only at h
          split at h <;> cases h
        · dsimp only at h
          split at h
          · cases h
          · rename_i hb
            split at h
            · rename_i hd
              cases h
              rw [Bool.not_eq_true', Bool.not_eq_false] at hb
              exact Or.inr (Or.inr (Or.inl
                ⟨b, d, more, rfl, hfirst.1, hfirst.2, hb, hd, rfl, rfl⟩))
            · cases h
      · split at h
        · rename_i hfirst
          rcases rest with _ | ⟨b, _ | ⟨d, _ | ⟨e, more⟩⟩⟩
          · cases h
          · dsimp only at h
            split at h <;> cases h
          · dsimp only at h
            split at h
            · cases h
            · split at h <;> cases h
          · dsimp only at h
            split at h
            · cases h
            · rename_i hb
              split at h
              · cases h
              · rename_i hd
                split at h
                · rename_i he
                  cases h
                  rw [Bool.not_eq_true', Bool.not_eq_false] at hb hd
                  exact Or.inr (Or.inr (Or.inr
                    ⟨b, d, e, more, rfl, hfirst.1, hfirst.2, hb, hd, he, rfl, rfl⟩))
                · cases h
        · cases h

/-- The bytes that a character takes after its first one continue it. -/
theorem isTail_of_head {first : UInt8} {rest : List UInt8} {c : Char} {taken : Nat}
    (h : head first rest = .ok (c, taken)) :
    ∃ tails more, rest = tails ++ more ∧ tails.length = taken ∧
      ∀ b ∈ tails, isTail b = true := by
  rcases head_cases h with ⟨-, -, rfl⟩ | ⟨b, more, rfl, -, -, hb, -, rfl⟩ |
    ⟨b, d, more, rfl, -, -, hb, hd, -, rfl⟩ | ⟨b, d, e, more, rfl, -, -, hb, hd, he, -, rfl⟩
  · exact ⟨[], rest, rfl, rfl, by simp⟩
  · exact ⟨[b], more, rfl, rfl, by simpa using hb⟩
  · exact ⟨[b, d], more, rfl, rfl, by simp [isTail_of_secondOfThree hb, hd]⟩
  · exact ⟨[b, d, e], more, rfl, rfl, by simp [isTail_of_secondOfFour hb, hd, he]⟩

/-- The first byte of a character continues no other one. -/
theorem head_encodeChar_not_isTail (c : Char) :
    ∃ first more, encodeChar c = first :: more ∧ isTail first = false := by
  have hvalid : c.toNat < 0xD800 ∨ 0xDFFF < c.toNat ∧ c.toNat < 0x110000 := c.valid
  have hstart : ∀ n : Nat, n < 0x80 ∨ 0xBF < n → n < 256 → isTail n.toUInt8 = false := by
    intro n hn hlt
    rw [Bool.eq_false_iff, ne_eq, isTail_iff, toNat_toUInt8 hlt]
    omega
  unfold encodeChar
  dsimp only
  split
  · rename_i h
    exact ⟨_, _, rfl, hstart _ (Or.inl h) (by omega)⟩
  · split
    · exact ⟨_, _, rfl, hstart _ (Or.inr (by omega)) (by omega)⟩
    · split
      · exact ⟨_, _, rfl, hstart _ (Or.inr (by omega)) (by omega)⟩
      · exact ⟨_, _, rfl, hstart _ (Or.inr (by omega)) (by omega)⟩

/-- A character ends before the next one begins. -/
theorem taken_le_of_head {first : UInt8} {rest : List UInt8} {c d : Char} {taken : Nat}
    (h : head first (rest ++ encodeChar c) = .ok (d, taken)) : taken ≤ rest.length := by
  obtain ⟨next, more, hchar, hnext⟩ := head_encodeChar_not_isTail c
  obtain ⟨tails, after, hsplit, hcount, htails⟩ := isTail_of_head h
  rcases List.append_eq_append_iff.mp hsplit with ⟨crossed, hcross, hrest⟩ | ⟨_, hover, _⟩
  · rw [hchar] at hrest
    rcases crossed with _ | ⟨b, crossed⟩
    · have hlength := congrArg List.length hcross
      rw [List.append_nil] at hlength
      omega
    · rw [List.cons_append] at hrest
      cases hrest
      rw [htails next (hcross ▸ List.mem_append_right _ (List.mem_cons_self ..))] at hnext
      cases hnext
  · have hshort := congrArg List.length hover
    rw [List.length_append] at hshort
    omega

/-- A character at the end of what is read is the last one that is read. -/
theorem decodeFrom_append_char {c : Char} {bytes : List UInt8} {start : Nat} {name : List Char}
    (h : decodeFrom start (bytes ++ encodeChar c) = .ok name) : ∃ init, name = init ++ [c] := by
  induction hlength : bytes.length using Nat.strongRecOn generalizing bytes start name with
  | ind n ih =>
    rcases bytes with _ | ⟨first, rest⟩
    · have hself := decodeFrom_encode [c] start
      rw [encode, List.flatMap_singleton] at hself
      rw [List.nil_append, hself] at h
      cases h
      exact ⟨[], rfl⟩
    · rw [List.cons_append, decodeFrom] at h
      split at h
      · cases h
      · rename_i d taken hhead
        split at h
        · cases h
        · rename_i later hlater
          cases h
          rw [List.drop_append_of_le_length (taken_le_of_head hhead)] at hlater
          have hlt : (rest.drop taken).length < n := by
            rw [List.length_drop, ← hlength, List.length_cons]
            omega
          obtain ⟨init, hinit⟩ := ih _ hlt hlater rfl
          exact ⟨d :: init, by rw [hinit]; rfl⟩

/-! ## Bytes that are read -/

theorem toNat_of_isTail {b : UInt8} (h : isTail b = true) : b.toNat = 0x80 + low b := by
  have hb := isTail_iff.mp h
  rw [low]
  omega

theorem low_lt (b : UInt8) : low b < 64 :=
  Nat.mod_lt _ (by decide)

theorem toNat_ofNat {n : Nat} (h : n < 0xD800 ∨ 0xDFFF < n ∧ n < 0x110000) :
    (Char.ofNat n).toNat = n := by
  have hvalid : n.isValidChar := h
  rw [Char.ofNat, dif_pos hvalid]
  rfl

theorem toUInt8_eq {n : Nat} {b : UInt8} (h : n = b.toNat) : n.toUInt8 = b := by
  rw [h]
  exact UInt8.ofNat_toNat

theorem low_of_secondOfThree {first b : UInt8} (h : secondOfThree first b = true) :
    (first.toNat = 0xE0 → 0x20 ≤ low b) ∧ (first.toNat = 0xED → low b < 0x20) := by
  have hb := toNat_of_isTail (isTail_of_secondOfThree h)
  simp only [secondOfThree, beq_iff_eq, ← UInt8.toNat_inj, UInt8.reduceToNat] at h
  refine ⟨fun hfirst => ?_, fun hfirst => ?_⟩
  · simp only [hfirst, if_true, Bool.and_eq_true, decide_eq_true_eq, UInt8.le_iff_toNat_le,
      UInt8.reduceToNat] at h
    omega
  · rw [hfirst, if_neg (by decide), if_pos rfl] at h
    simp only [Bool.and_eq_true, decide_eq_true_eq, UInt8.le_iff_toNat_le,
      UInt8.reduceToNat] at h
    omega

theorem low_of_secondOfFour {first b : UInt8} (h : secondOfFour first b = true) :
    (first.toNat = 0xF0 → 0x10 ≤ low b) ∧ (first.toNat = 0xF4 → low b < 0x10) := by
  have hb := toNat_of_isTail (isTail_of_secondOfFour h)
  simp only [secondOfFour, beq_iff_eq, ← UInt8.toNat_inj, UInt8.reduceToNat] at h
  refine ⟨fun hfirst => ?_, fun hfirst => ?_⟩
  · simp only [hfirst, if_true, Bool.and_eq_true, decide_eq_true_eq, UInt8.le_iff_toNat_le,
      UInt8.reduceToNat] at h
    omega
  · rw [hfirst, if_neg (by decide), if_pos rfl] at h
    simp only [Bool.and_eq_true, decide_eq_true_eq, UInt8.le_iff_toNat_le,
      UInt8.reduceToNat] at h
    omega

/-- The bytes that are read as a character are its bytes. -/
theorem cons_eq_of_head {first : UInt8} {rest : List UInt8} {c : Char} {taken : Nat}
    (h : head first rest = .ok (c, taken)) :
    first :: rest = encodeChar c ++ rest.drop taken := by
  rcases head_cases h with ⟨hfirst, rfl, rfl⟩ | ⟨b, more, rfl, hlow, hhigh, hb, rfl, rfl⟩ |
    ⟨b, d, more, rfl, hlow, hhigh, hb, hd, rfl, rfl⟩ |
    ⟨b, d, e, more, rfl, hlow, hhigh, hb, hd, he, rfl, rfl⟩
  · have hn : (Char.ofNat first.toNat).toNat = first.toNat := toNat_ofNat (by omega)
    rw [encodeChar, hn, if_pos hfirst, toUInt8_eq rfl]
    rfl
  · have hb' := toNat_of_isTail hb
    have hlt := low_lt b
    have hn := toNat_ofNat (n := first.toNat % 32 * 64 + low b) (by omega)
    rw [encodeChar, hn, if_neg (by omega), if_pos (by omega), toUInt8_eq (b := first) (by omega),
      toUInt8_eq (b := b) (by omega)]
    rfl
  · have hb' := toNat_of_isTail (isTail_of_secondOfThree hb)
    have hd' := toNat_of_isTail hd
    have hlt := low_lt b
    have hlt' := low_lt d
    obtain ⟨hE0, hED⟩ := low_of_secondOfThree hb
    have hn := toNat_ofNat (n := first.toNat % 16 * 4096 + low b * 64 + low d) (by omega)
    rw [encodeChar, hn, if_neg (by omega), if_neg (by omega), if_pos (by omega),
      toUInt8_eq (b := first) (by omega), toUInt8_eq (b := b) (by omega),
      toUInt8_eq (b := d) (by omega)]
    rfl
  · have hb' := toNat_of_isTail (isTail_of_secondOfFour hb)
    have hd' := toNat_of_isTail hd
    have he' := toNat_of_isTail he
    have hlt := low_lt b
    have hlt' := low_lt d
    have hlt'' := low_lt e
    obtain ⟨hF0, hF4⟩ := low_of_secondOfFour hb
    have hn := toNat_ofNat
      (n := first.toNat % 8 * 262144 + low b * 4096 + low d * 64 + low e) (by omega)
    rw [encodeChar, hn, if_neg (by omega), if_neg (by omega), if_neg (by omega),
      toUInt8_eq (b := first) (by omega), toUInt8_eq (b := b) (by omega),
      toUInt8_eq (b := d) (by omega), toUInt8_eq (b := e) (by omega)]
    rfl

theorem encode_of_decodeFrom {bytes : List UInt8} {start : Nat} {cs : List Char}
    (h : decodeFrom start bytes = .ok cs) : encode cs = bytes := by
  induction start, bytes using decodeFrom.induct generalizing cs with
  | case1 start =>
    rw [decodeFrom] at h
    cases h
    rfl
  | case2 start first rest width hhead =>
    rw [decodeFrom, hhead] at h
    cases h
  | case3 start first rest c taken hhead fault hrest ih =>
    rw [decodeFrom, hhead] at h
    dsimp only at h
    rw [hrest] at h
    cases h
  | case4 start first rest c taken hhead later hrest ih =>
    rw [decodeFrom, hhead] at h
    dsimp only at h
    rw [hrest] at h
    cases h
    rw [cons_eq_of_head hhead, encode, List.flatMap_cons, ← encode, ih hrest]

/-- Bytes are read as a text exactly if they are the bytes of it. -/
theorem decode_eq_ok_iff {bytes : List UInt8} {cs : List Char} :
    decode bytes = .ok cs ↔ bytes = encode cs := by
  constructor
  · intro h
    exact (encode_of_decodeFrom h).symm
  · rintro rfl
    exact decode_encode cs

theorem string?_eq_some_iff {input : List UInt8} {text : String} :
    string? input = some text ↔ input = bytes text := by
  constructor
  · intro h
    rw [string?] at h
    split at h
    · rename_i cs hcs
      obtain rfl := Option.some.inj h
      rw [bytes, String.toList_ofList]
      exact decode_eq_ok_iff.mp hcs
    · cases h
  · rintro rfl
    exact string?_bytes text

/-- Bytes in front of the bytes of a text, if they are those of a text themselves, are those of its
beginning. -/
theorem prefix_of_encode {cs ds : List Char} (h : encode cs <+: encode ds) : cs <+: ds := by
  induction cs generalizing ds with
  | nil => exact List.nil_prefix
  | cons c cs ih =>
    obtain ⟨behind, h⟩ := h
    have hcs : encode (c :: cs) ++ behind = encodeChar c ++ (encode cs ++ behind) := by
      rw [encode, List.flatMap_cons, ← encode, List.append_assoc]
    obtain ⟨first, more, hc, hhead⟩ := head_encodeChar c (encode cs ++ behind)
    rw [hcs, hc, List.cons_append] at h
    cases ds with
    | nil => cases h
    | cons d ds =>
      obtain ⟨first', more', hd, hhead'⟩ := head_encodeChar d (encode ds)
      have hds : encode (d :: ds) = first' :: (more' ++ encode ds) := by
        rw [encode, List.flatMap_cons, ← encode, hd, List.cons_append]
      rw [hds, List.cons.injEq] at h
      obtain ⟨rfl, hrest⟩ := h
      -- Both characters are read from the same bytes.
      rw [hrest, hhead', Except.ok.injEq, Prod.mk.injEq] at hhead
      obtain ⟨rfl, -⟩ := hhead
      rw [hc, List.cons.injEq] at hd
      rw [← hd.2, List.append_cancel_left_eq] at hrest
      exact (List.prefix_cons_inj d).mpr (ih ⟨behind, hrest⟩)

/-! ## ASCII -/

theorem encodeChar_of_lt {c : Char} (h : c.toNat < 0x80) : encodeChar c = [c.toNat.toUInt8] := by
  rw [encodeChar]
  exact if_pos h

/-- The bytes of a character outside ASCII are outside ASCII. -/
theorem le_of_mem_encodeChar {c : Char} (h : 0x80 ≤ c.toNat) {b : UInt8}
    (hb : b ∈ encodeChar c) : 0x80 ≤ b.toNat := by
  have hvalid : c.toNat < 0xD800 ∨ 0xDFFF < c.toNat ∧ c.toNat < 0x110000 := c.valid
  -- Each byte is a sum of a marker of at least 0x80 and some bits of the number.
  have hmark : ∀ mark bits : Nat, 0x80 ≤ mark → mark + bits < 256 →
      0x80 ≤ (mark + bits).toUInt8.toNat := by
    intro mark bits hle hlt
    rw [toNat_toUInt8 hlt]
    omega
  unfold encodeChar at hb
  dsimp only at hb
  rw [if_neg (by omega)] at hb
  split at hb
  · simp only [List.mem_cons, List.not_mem_nil, or_false] at hb
    rcases hb with rfl | rfl
    · exact hmark _ _ (by omega) (by omega)
    · exact hmark _ _ (by omega) (by omega)
  · split at hb
    · simp only [List.mem_cons, List.not_mem_nil, or_false] at hb
      rcases hb with rfl | rfl | rfl
      · exact hmark _ _ (by omega) (by omega)
      · exact hmark _ _ (by omega) (by omega)
      · exact hmark _ _ (by omega) (by omega)
    · simp only [List.mem_cons, List.not_mem_nil, or_false] at hb
      rcases hb with rfl | rfl | rfl | rfl
      · exact hmark _ _ (by omega) (by omega)
      · exact hmark _ _ (by omega) (by omega)
      · exact hmark _ _ (by omega) (by omega)
      · exact hmark _ _ (by omega) (by omega)

/-- A predicate that holds of all bytes outside ASCII holds of all bytes of a text if it holds of
its ASCII characters. -/
theorem all_bytes {p : UInt8 → Bool} (hp : ∀ b : UInt8, 0x80 ≤ b.toNat → p b = true) {s : String}
    (hs : ∀ c ∈ s.toList, c.toNat < 0x80 → p c.toNat.toUInt8 = true) :
    (bytes s).all p = true := by
  rw [List.all_eq_true]
  intro b hb
  rw [bytes, encode, List.mem_flatMap] at hb
  obtain ⟨c, hc, hb⟩ := hb
  by_cases hlt : c.toNat < 0x80
  · rw [encodeChar_of_lt hlt, List.mem_singleton] at hb
    rw [hb]
    exact hs c hc hlt
  · exact hp b (le_of_mem_encodeChar (by omega) hb)

/-- The bytes of an ASCII text are its characters. -/
theorem bytes_of_ascii {s : String} (h : ∀ c ∈ s.toList, c.toNat < 0x80) :
    bytes s = s.toList.map fun c => c.toNat.toUInt8 := by
  have hchars : ∀ cs : List Char, (∀ c ∈ cs, c.toNat < 0x80) →
      encode cs = cs.map fun c => c.toNat.toUInt8 := by
    intro cs hcs
    induction cs with
    | nil => rfl
    | cons c rest ih =>
      have hrest := ih fun d hd => hcs d (List.mem_cons_of_mem _ hd)
      rw [encode] at hrest
      rw [encode, List.flatMap_cons, encodeChar_of_lt (hcs c (List.mem_cons_self ..)), hrest]
      rfl
  exact hchars s.toList h

end FormFetch.Text.Utf8
