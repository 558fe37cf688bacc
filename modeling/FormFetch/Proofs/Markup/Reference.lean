import FormFetch.Markup.Attribute
import FormFetch.Proofs.Text.Number
import FormFetch.Proofs.Text.Strip

/-!
# Escaped text is read back

A writer of references beside their reader: the five characters with a name are written by
name, and chosen spaces by number.

* `escape` is the writer, and `mem_escape` says which characters it leaves.
* `Expands` is reading up to the places, which only the reports of faults show.
* `expand_escape` is the result for the writer.
* `StandsFor` says what any text with references stands for, and `expand_eq_ok_iff` that this is
  what is read; `StandsFor.append`, `StandsFor.of_append_left` and `StandsFor.of_append_right` put
  texts together and take them apart.
-/

namespace FormFetch.Markup.Tag

theorem isSpace_iff {c : Char} :
    isSpace c = true ↔ c = ' ' ∨ c = '\t' ∨ c = '\n' ∨ c = '\r' := by
  simp [isSpace, or_assoc]

end FormFetch.Markup.Tag

namespace FormFetch.Markup.Reference

open FormFetch.Text
open FormFetch.Markup.Tag (isSpace)

/-! ## The writer -/

/-- The name of a character, if it has one. -/
def nameOfChar? (c : Char) : Option (List Char) :=
  if c = '<' then some "lt".toList
  else if c = '>' then some "gt".toList
  else if c = '&' then some "amp".toList
  else if c = '\'' then some "apos".toList
  else if c = '"' then some "quot".toList
  else none

/-- A character that is written by its name. -/
def isMark (c : Char) : Bool :=
  (nameOfChar? c).isSome

/-- A character of an escaped text.  `spaces` are the characters written by their numbers. -/
def escapeChar (spaces : Char → Bool) (c : Char) : List Char :=
  match nameOfChar? c with
  | some name => '&' :: (name ++ [';'])
  | none => if spaces c then '&' :: '#' :: (Nat.toDigits 10 c.toNat ++ [';']) else [c]

/-- An escaped text. -/
def escape (spaces : Char → Bool) (text : List Char) : List Char :=
  text.flatMap (escapeChar spaces)

variable {spaces : Char → Bool}

/-- How a character is written. -/
theorem escapeChar_cases (spaces : Char → Bool) (c : Char) :
    (∃ name, nameOfChar? c = some name ∧ escapeChar spaces c = '&' :: (name ++ [';'])) ∨
    (spaces c = true ∧
      escapeChar spaces c = '&' :: '#' :: (Nat.toDigits 10 c.toNat ++ [';'])) ∨
    (isMark c = false ∧ spaces c = false ∧ escapeChar spaces c = [c]) := by
  unfold escapeChar isMark
  cases nameOfChar? c with
  | some name => exact Or.inl ⟨name, rfl, rfl⟩
  | none =>
    by_cases hspace : spaces c = true
    · exact Or.inr (Or.inl ⟨hspace, if_pos hspace⟩)
    · exact Or.inr (Or.inr ⟨rfl, by simpa using hspace, if_neg hspace⟩)

theorem escape_ne_nil {text : List Char} (h : text ≠ []) : escape spaces text ≠ [] := by
  obtain ⟨c, rest, rfl⟩ := List.exists_cons_of_ne_nil h
  have hc : escapeChar spaces c ≠ [] := by
    rcases escapeChar_cases spaces c with ⟨name, -, hc⟩ | ⟨-, hc⟩ | ⟨-, -, hc⟩
    all_goals
      rw [hc]
      exact List.cons_ne_nil _ _
  rw [escape, List.flatMap_cons]
  exact List.append_ne_nil_of_left_ne_nil hc _

/-! ## The characters of references -/

theorem isAlpha_of_mem_nameOfChar? {c d : Char} {name : List Char}
    (h : nameOfChar? c = some name) (hd : d ∈ name) : d.isAlpha = true := by
  refine List.all_eq_true.mp ?_ d hd
  unfold nameOfChar? at h
  repeat' split at h
  all_goals
    cases h
    try decide

/-- A character that stands in references. -/
def isReferenceChar (c : Char) : Bool :=
  c == '&' || c == '#' || c == ';' || c.isAlphanum

theorem isBodyChar_of_isAlphanum {c : Char} (h : c.isAlphanum = true) : isBodyChar c = true := by
  rw [isBodyChar, Bool.and_eq_true, bne_iff_ne, bne_iff_ne]
  exact ⟨by rintro rfl; exact absurd h (by decide), by rintro rfl; exact absurd h (by decide)⟩

/-- An escaped text has the characters of references, and others that need none. -/
theorem mem_escape {text : List Char} {d : Char} (h : d ∈ escape spaces text) :
    isReferenceChar d = true ∨ d ∈ text ∧ isMark d = false ∧ spaces d = false := by
  obtain ⟨c, hc, hd⟩ := List.mem_flatMap.mp h
  rcases escapeChar_cases spaces c with ⟨name, hname, hwritten⟩ | ⟨-, hwritten⟩ |
    ⟨hmark, hspace, hwritten⟩
  · rw [hwritten, List.mem_cons, List.mem_append, List.mem_singleton] at hd
    rcases hd with rfl | hd | rfl
    · exact Or.inl rfl
    · exact Or.inl (by simp [isReferenceChar, Char.isAlphanum, isAlpha_of_mem_nameOfChar? hname hd])
    · exact Or.inl rfl
  · rw [hwritten, List.mem_cons, List.mem_cons, List.mem_append, List.mem_singleton] at hd
    rcases hd with rfl | rfl | hd | rfl
    · exact Or.inl rfl
    · exact Or.inl rfl
    · have hdigit : d.isDigit = true := Nat.isDigit_of_mem_toDigits (by omega) (by omega) hd
      exact Or.inl (by simp [isReferenceChar, Char.isAlphanum, hdigit])
    · exact Or.inl rfl
  · rw [hwritten, List.mem_singleton] at hd
    exact Or.inr ⟨hd ▸ hc, hd ▸ hmark, hd ▸ hspace⟩

theorem isReferenceChar_ne {c d : Char} (h : isReferenceChar c = true)
    (hd : isReferenceChar d = false) : c ≠ d := by
  rintro rfl
  exact absurd h (by simp [hd])

/-- No character that has a name is left, except for the start of references. -/
theorem ne_of_mem_escape {text : List Char} {c d : Char} (h : d ∈ escape spaces text)
    (hc : isMark c = true ∧ isReferenceChar c = false) : d ≠ c := by
  rcases mem_escape h with hd | ⟨-, hd, -⟩
  · exact isReferenceChar_ne hd hc.2
  · rintro rfl
    exact absurd hc.1 (by simp [hd])

/-- No space is left, where all are written by their numbers. -/
theorem isSpace_of_mem_escape (hspaces : ∀ c, isSpace c = true → spaces c = true)
    {text : List Char} {d : Char} (h : d ∈ escape spaces text) : isSpace d = false := by
  refine Bool.eq_false_iff.mpr fun hspace => ?_
  rcases mem_escape h with hd | ⟨-, -, hd⟩
  · rcases Tag.isSpace_iff.mp hspace with rfl | rfl | rfl | rfl <;> exact absurd hd (by decide)
  · exact Bool.eq_false_iff.mp hd (hspaces d hspace)

/-! ## Reading -/

/-- Reading gives a text, whatever the places are. -/
def Expands (input text : List Char) : Prop :=
  ∀ stop pos, expandFrom stop pos input = .ok text

theorem Expands.nil : Expands [] [] := by
  intro stop pos
  rw [expandFrom]

theorem Expands.cons {input text : List Char} {c : Char} (hc : c ≠ '&') (h : Expands input text) :
    Expands (c :: input) (c :: text) := by
  intro stop pos
  rw [expandFrom]
  · rw [h stop]
    rfl
  · exact hc

theorem Expands.reference {body input text : List Char} {c : Char}
    (hbody : ∀ d ∈ body, isBodyChar d = true) (hc : ∀ start, resolve start body = .ok c)
    (h : Expands input text) : Expands ('&' :: (body ++ ';' :: input)) (c :: text) := by
  intro stop pos
  have hend : ∀ d ∈ (';' :: input).head?, isBodyChar d = false := by
    simp [isBodyChar]
  have hdrop : (body ++ ';' :: input).dropWhile isBodyChar = ';' :: input :=
    dropWhile_append_of_head? hbody hend
  have htake : (body ++ ';' :: input).takeWhile isBodyChar = body :=
    takeWhile_append_of_head? hbody hend
  rw [expandFrom]
  split
  · rename_i after hafter
    rw [hdrop, List.cons.injEq] at hafter
    simp only [htake, hc, ← hafter.2, h stop]
    rfl
  · rename_i hnone
    exact absurd hdrop (hnone input)

theorem resolve_nameOfChar? {c : Char} {name : List Char} (h : nameOfChar? c = some name)
    (start : Nat) : resolve start name = .ok c := by
  unfold nameOfChar? at h
  repeat' split at h
  all_goals
    cases h
    try subst c
    try rfl

theorem charOfCode?_toNat (c : Char) : charOfCode? c.toNat = some c := by
  have hvalid : c.toNat.isValidChar := c.valid
  rw [charOfCode?, if_pos hvalid, Char.ofNat_toNat]

/-- The number of a character gives the character. -/
theorem charOfNumber_toDigits {c : Char} (h : c.toNat ≠ 0) :
    charOfNumber (Nat.toDigits 10 c.toNat) = .ok c := by
  have hlimit : c.toNat ≤ Number.max32 := Nat.le_of_lt_succ c.val.toNat_lt
  have hnumber := Number.natural_toDigits hlimit
  have hcode := charOfCode?_toNat c
  have hdigits : ∀ d ∈ Nat.toDigits 10 c.toNat, d.isDigit = true := fun d hd =>
    Nat.isDigit_of_mem_toDigits (by omega) (by omega) hd
  generalize Nat.toDigits 10 c.toNat = number at hdigits hnumber ⊢
  generalize c.toNat = code at h hnumber hcode
  unfold charOfNumber
  split
  rename_i radix digits hradix
  split at hradix
  · exact absurd (hdigits 'x' (List.mem_cons_self ..)) (by decide)
  · cases hradix
    split
    · exact absurd (hdigits '+' (List.mem_cons_self ..)) (by decide)
    · exact absurd (hdigits '-' (List.mem_cons_self ..)) (by decide)
    · cases code with
      | zero => exact absurd rfl h
      | succ n =>
        rw [hnumber]
        simp only [hcode]

theorem resolve_toDigits {c : Char} (h : c.toNat ≠ 0) (start : Nat) :
    resolve start ('#' :: Nat.toDigits 10 c.toNat) = .ok c := by
  rw [resolve, charOfNumber_toDigits h]

/-- A character is read back. -/
theorem Expands.escapeChar {c : Char} (hspaces : spaces c = true → c.toNat ≠ 0)
    {input text : List Char} (h : Expands input text) :
    Expands (escapeChar spaces c ++ input) (c :: text) := by
  rcases escapeChar_cases spaces c with ⟨name, hname, hwritten⟩ | ⟨hspace, hwritten⟩ |
    ⟨hmark, -, hwritten⟩
  · have hbody : ∀ d ∈ name, isBodyChar d = true := fun d hd =>
      isBodyChar_of_isAlphanum (by simp [Char.isAlphanum, isAlpha_of_mem_nameOfChar? hname hd])
    rw [hwritten, List.cons_append, List.append_assoc]
    exact h.reference hbody (resolve_nameOfChar? hname)
  · have hbody : ∀ d ∈ '#' :: Nat.toDigits 10 c.toNat, isBodyChar d = true := by
      rw [List.forall_mem_cons]
      refine ⟨rfl, fun d hd => isBodyChar_of_isAlphanum ?_⟩
      have hdigit : d.isDigit = true := Nat.isDigit_of_mem_toDigits (by omega) (by omega) hd
      rw [Char.isAlphanum, hdigit, Bool.or_true]
    have hreference := h.reference hbody (resolve_toDigits (hspaces hspace))
    rw [hwritten, List.cons_append, List.cons_append, List.append_assoc]
    exact hreference
  · have hc : c ≠ '&' := by
      rintro rfl
      exact absurd hmark (by decide)
    rw [hwritten]
    exact h.cons hc

/-- An escaped text is read back. -/
theorem expand_escape (hspaces : ∀ c, spaces c = true → c.toNat ≠ 0) (text : List Char) :
    expand (escape spaces text) = .ok text := by
  have hexpands : Expands (escape spaces text) text := by
    induction text with
    | nil => exact Expands.nil
    | cons c rest ih =>
      rw [escape, List.flatMap_cons]
      exact Expands.escapeChar (hspaces c) ih
  exact hexpands _ 0

/-! ## What a text stands for -/

/-- A text with references stands for a text: each reference for a character, and any other
character for itself. -/
inductive StandsFor : List Char → List Char → Prop
  | nil : StandsFor [] []
  | cons {c : Char} {input text : List Char} (hc : c ≠ '&') (hrest : StandsFor input text) :
      StandsFor (c :: input) (c :: text)
  | reference {body input text : List Char} {c : Char}
      (hbody : ∀ d ∈ body, isBodyChar d = true) (hc : ∀ start, resolve start body = .ok c)
      (hrest : StandsFor input text) : StandsFor ('&' :: (body ++ ';' :: input)) (c :: text)

/-- Where a reference starts is told in the reports of faults only. -/
theorem resolve_eq_ok {start : Nat} {body : List Char} {c : Char} (h : resolve start body = .ok c)
    (start' : Nat) : resolve start' body = .ok c := by
  unfold resolve at h ⊢
  split at h
  · split at h
    · exact h
    · cases h
  · split at h
    · exact h
    · cases h

theorem standsFor_of_expandFrom {stop pos : Nat} {input text : List Char}
    (h : expandFrom stop pos input = .ok text) : StandsFor input text := by
  fun_induction expandFrom stop pos input generalizing text with
  | case1 =>
    cases h
    exact .nil
  | case2 pos rest after hdrop body =>
    rename_i ih
    cases hc : resolve (pos + 1) body with
    | error fault =>
      rw [hc] at h
      cases h
    | ok c =>
      cases hafter : expandFrom stop (pos + width body + 2) after with
      | error fault =>
        rw [hc, hafter] at h
        cases h
      | ok cs =>
        rw [hc, hafter] at h
        cases h
        have hsplit : rest = body ++ ';' :: after := by
          rw [← hdrop, List.takeWhile_append_dropWhile]
        rw [hsplit]
        exact .reference (List.all_eq_true.mp List.all_takeWhile) (resolve_eq_ok hc) (ih hafter)
  | case3 => cases h
  | case4 pos c rest hc ih =>
    cases hrest : expandFrom stop (pos + width [c]) rest with
    | error fault =>
      rw [hrest] at h
      cases h
    | ok cs =>
      rw [hrest] at h
      cases h
      exact .cons hc (ih hrest)

theorem StandsFor.expands {input text : List Char} (h : StandsFor input text) :
    Expands input text := by
  induction h with
  | nil => exact Expands.nil
  | cons hc _ ih => exact ih.cons hc
  | reference hbody hc _ ih => exact ih.reference hbody hc

/-- Reading finds what a text stands for. -/
theorem expand_eq_ok_iff {input text : List Char} :
    expand input = .ok text ↔ StandsFor input text :=
  ⟨standsFor_of_expandFrom, fun h => h.expands _ 0⟩

theorem StandsFor.unique {input text text' : List Char} (h : StandsFor input text)
    (h' : StandsFor input text') : text' = text :=
  Except.ok.inj ((h'.expands 0 0).symm.trans (h.expands 0 0))

theorem StandsFor.append {input text more text' : List Char} (h : StandsFor input text)
    (h' : StandsFor more text') : StandsFor (input ++ more) (text ++ text') := by
  induction h with
  | nil => exact h'
  | cons hc _ ih => exact .cons hc ih
  | reference hbody hc _ ih =>
    rw [List.cons_append, List.append_assoc, List.cons_append, List.cons_append]
    exact .reference hbody hc ih

/-- A text without references stands for itself. -/
theorem standsFor_self {text : List Char} (h : '&' ∉ text) : StandsFor text text := by
  induction text with
  | nil => exact .nil
  | cons c rest ih =>
    rw [List.mem_cons, not_or] at h
    exact .cons (fun heq => h.1 heq.symm) (ih h.2)

theorem expand_of_notMem {text : List Char} (h : '&' ∉ text) : expand text = .ok text :=
  expand_eq_ok_iff.mpr (standsFor_self h)

/-- Characters in front that start no reference stand for themselves. -/
theorem StandsFor.of_append_left {front input text : List Char} (hfront : '&' ∉ front)
    (h : StandsFor (front ++ input) text) : ∃ text', text = front ++ text' ∧
      StandsFor input text' := by
  induction front generalizing text with
  | nil => exact ⟨text, rfl, h⟩
  | cons c front ih =>
    rw [List.mem_cons, not_or] at hfront
    rw [List.cons_append] at h
    generalize front ++ input = rest at h ih
    cases h with
    | cons hc hrest =>
      obtain ⟨text', rfl, hinput⟩ := ih hfront.2 hrest
      exact ⟨text', rfl, hinput⟩
    | reference hbody hc hrest => exact absurd rfl hfront.1

/-- Characters behind that neither start nor end a reference stand for themselves. -/
theorem StandsFor.of_append_right {input back text : List Char} (hstart : '&' ∉ back)
    (hend : ';' ∉ back) (h : StandsFor (input ++ back) text) :
    ∃ text', text = text' ++ back ∧ StandsFor input text' := by
  generalize hall : input ++ back = all at h
  induction h generalizing input with
  | nil =>
    obtain ⟨rfl, rfl⟩ := List.append_eq_nil_iff.mp hall
    exact ⟨[], rfl, .nil⟩
  | @cons c rest text hc hrest ih =>
    cases input with
    | nil =>
      rw [List.nil_append] at hall
      subst hall
      exact ⟨[], (standsFor_self hstart).unique (.cons hc hrest), .nil⟩
    | cons d input =>
      obtain ⟨rfl, htail⟩ := List.cons.inj hall
      obtain ⟨text', rfl, hinput⟩ := ih htail
      exact ⟨d :: text', rfl, .cons hc hinput⟩
  | @reference body rest text c hbody hc hrest ih =>
    cases input with
    | nil =>
      rw [List.nil_append] at hall
      exact absurd (hall ▸ List.mem_cons_self ..) hstart
    | cons d input =>
      obtain ⟨rfl, htail⟩ := List.cons.inj hall
      rcases exists_of_append_eq_append_cons htail with ⟨tail, rfl, rfl⟩ | ⟨head, -, hback⟩
      · obtain ⟨text', rfl, hinput⟩ := ih rfl
        exact ⟨c :: text', rfl, .reference hbody hc hinput⟩
      · exact absurd (by simp [hback]) hend

end FormFetch.Markup.Reference
