import FormFetch.Text.Blank

/-!
# The ends of a text

What a scan from either end of a list leaves.

* `takeWhile_append_of_head?` and `dropWhile_append_of_head?`: a scan from the start stops at
  the first element that it does not accept.
* `dropEndWhile_append_cons` and `dropEndWhile_append_of_forall`: the scan from the end
  stops at the last element that stays, and goes through elements that do not.
* `dropWhile_of_forall_not`, `dropEndWhile_of_forall_not`: where nothing is to be dropped,
  nothing changes.
* `exists_of_append_eq_append_cons`: a mark is on one side of a cut.
* `append_cons_inj`, `append_cons_inj_right`: the first or the last mark parts a text in one way.
* `dropWhile_ne_cases`: a scan for a mark finds none or stops at the first one.
* `trimStart_trimEnd_append`: blanks in front of a trimmed text are trimmed from either
  side.
-/

namespace FormFetch.Text

section Scans

variable {α : Type} {p : α → Bool}

/-- A scan takes what is in front of the first element that it stops at. -/
theorem takeWhile_append_of_head? {xs rest : List α} (hxs : ∀ x ∈ xs, p x = true)
    (hrest : ∀ x ∈ rest.head?, p x = false) : (xs ++ rest).takeWhile p = xs := by
  rw [List.takeWhile_append_of_pos hxs]
  cases rest with
  | nil => exact List.append_nil xs
  | cons x tail =>
    rw [List.takeWhile_cons_of_neg (by simp [hrest x rfl]), List.append_nil]

/-- A scan leaves the first element that it stops at, and what follows it. -/
theorem dropWhile_append_of_head? {xs rest : List α} (hxs : ∀ x ∈ xs, p x = true)
    (hrest : ∀ x ∈ rest.head?, p x = false) : (xs ++ rest).dropWhile p = rest := by
  rw [List.dropWhile_append_of_pos hxs]
  cases rest with
  | nil => rfl
  | cons x tail => exact List.dropWhile_cons_of_neg (by simp [hrest x rfl])

theorem dropEndWhile_append_cons (xs ys : List α) {x : α} (h : p x = false) :
    dropEndWhile p (xs ++ x :: ys) = xs ++ x :: dropEndWhile p ys := by
  have hx : (x :: xs.reverse).dropWhile p = x :: xs.reverse := by
    rw [List.dropWhile_cons, h]
    rfl
  have hreverse : (xs ++ x :: ys).reverse = ys.reverse ++ x :: xs.reverse := by
    simp
  rw [dropEndWhile, hreverse, List.dropWhile_append, hx, dropEndWhile]
  split
  · rename_i hempty
    rw [List.isEmpty_iff.mp hempty]
    simp
  · simp

theorem exists_append_dropEndWhile (p : α → Bool) (xs : List α) :
    ∃ tail, xs = dropEndWhile p xs ++ tail ∧ tail.all p = true := by
  refine ⟨(xs.reverse.takeWhile p).reverse, ?_, ?_⟩
  · rw [dropEndWhile, ← List.reverse_append, List.takeWhile_append_dropWhile,
      List.reverse_reverse]
  · rw [List.all_reverse, List.all_takeWhile]

theorem mem_of_mem_dropEndWhile {xs : List α} {x : α} (h : x ∈ dropEndWhile p xs) : x ∈ xs := by
  rw [dropEndWhile, List.mem_reverse] at h
  exact List.mem_reverse.mp ((List.dropWhile_sublist p).mem h)

theorem dropEndWhile_append_of_forall (xs : List α) {ys : List α} (h : ∀ y ∈ ys, p y = true) :
    dropEndWhile p (xs ++ ys) = dropEndWhile p xs := by
  have hreverse : ∀ y ∈ ys.reverse, p y = true := fun y hy => h y (List.mem_reverse.mp hy)
  rw [dropEndWhile, List.reverse_append, List.dropWhile_append_of_pos hreverse, dropEndWhile]

theorem dropEndWhile_of_forall {xs : List α} (h : ∀ x ∈ xs, p x = true) :
    dropEndWhile p xs = [] :=
  dropEndWhile_append_of_forall [] h

theorem dropWhile_of_forall_not {xs : List α} (h : ∀ x ∈ xs, p x = false) :
    xs.dropWhile p = xs := by
  cases xs with
  | nil => rfl
  | cons x rest => exact List.dropWhile_cons_of_neg (by simp [h x (List.mem_cons_self ..)])

theorem dropEndWhile_of_forall_not {xs : List α} (h : ∀ x ∈ xs, p x = false) :
    dropEndWhile p xs = xs := by
  rw [dropEndWhile, dropWhile_of_forall_not fun x hx => h x (List.mem_reverse.mp hx),
    List.reverse_reverse]

end Scans

/-! ## Marks -/

/-- A mark in a text of two parts is in the first or in the second one. -/
theorem exists_of_append_eq_append_cons {α : Type} {xs ys before after : List α} {x : α}
    (h : xs ++ ys = before ++ x :: after) :
    (∃ tail, xs = before ++ x :: tail ∧ after = tail ++ ys) ∨
      ∃ head, before = xs ++ head ∧ ys = head ++ x :: after := by
  rcases List.append_eq_append_iff.mp h with ⟨head, hbefore, hys⟩ | ⟨tail, hxs, hafter⟩
  · exact Or.inr ⟨head, hbefore, hys⟩
  · cases tail with
    | nil => exact Or.inr ⟨[], by rw [hxs, List.append_nil, List.append_nil], hafter.symm⟩
    | cons y tail =>
      obtain ⟨rfl, rfl⟩ := List.cons.inj hafter
      exact Or.inl ⟨tail, hxs, rfl⟩

/-- What is in front of the first mark of a text, and what is behind it. -/
theorem append_cons_inj {α : Type} {x : α} {xs ys xs' ys' : List α} (hxs : x ∉ xs) (hxs' : x ∉ xs')
    (h : xs ++ x :: ys = xs' ++ x :: ys') : xs = xs' ∧ ys = ys' := by
  rcases exists_of_append_eq_append_cons h with ⟨between, rfl, -⟩ | ⟨between, rfl, hrest⟩
  · exact absurd (by simp) hxs
  · cases between with
    | nil => exact ⟨(List.append_nil xs).symm, (List.cons.inj hrest).2⟩
    | cons c between =>
      obtain ⟨rfl, -⟩ := List.cons.inj hrest
      exact absurd (by simp) hxs'

/-- What is in front of the last mark of a text, and what is behind it. -/
theorem append_cons_inj_right {α : Type} {x : α} {xs ys xs' ys' : List α} (hys : x ∉ ys)
    (hys' : x ∉ ys') (h : xs ++ x :: ys = xs' ++ x :: ys') : xs = xs' ∧ ys = ys' := by
  have hreverse := congrArg List.reverse h
  simp only [List.reverse_append, List.reverse_cons, List.append_assoc, List.singleton_append]
    at hreverse
  obtain ⟨hback, hfront⟩ := append_cons_inj (fun hmem => hys (List.mem_reverse.mp hmem))
    (fun hmem => hys' (List.mem_reverse.mp hmem)) hreverse
  exact ⟨List.reverse_inj.mp hfront, List.reverse_inj.mp hback⟩

section FirstMark

variable {α : Type} [DecidableEq α] {x : α} {xs : List α}

theorem forall_bne_of_notMem (h : x ∉ xs) : ∀ y ∈ xs, (y != x) = true :=
  fun _ hy => bne_iff_ne.mpr fun heq => h (heq ▸ hy)

/-- A scan for a mark takes what is in front of the first one. -/
theorem takeWhile_ne_append (h : x ∉ xs) (ys : List α) :
    (xs ++ x :: ys).takeWhile (· != x) = xs :=
  takeWhile_append_of_head? (forall_bne_of_notMem h) (by simp)

theorem dropWhile_ne_append (h : x ∉ xs) (ys : List α) :
    (xs ++ x :: ys).dropWhile (· != x) = x :: ys :=
  dropWhile_append_of_head? (forall_bne_of_notMem h) (by simp)

theorem dropWhile_ne_of_notMem (h : x ∉ xs) : xs.dropWhile (· != x) = [] := by
  have hdrop : (xs ++ []).dropWhile (· != x) = [] :=
    dropWhile_append_of_head? (forall_bne_of_notMem h) (by simp)
  rwa [List.append_nil] at hdrop

/-- A scan for a mark either finds none or stops at the first one. -/
theorem dropWhile_ne_cases (x : α) (xs : List α) :
    x ∉ xs ∧ xs.dropWhile (· != x) = [] ∨
      ∃ front back, xs = front ++ x :: back ∧ x ∉ front ∧ xs.takeWhile (· != x) = front ∧
        xs.dropWhile (· != x) = x :: back := by
  by_cases h : x ∈ xs
  · obtain ⟨front, back, rfl, hfront⟩ := List.eq_append_cons_of_mem h
    exact Or.inr ⟨front, back, rfl, hfront, takeWhile_ne_append hfront back,
      dropWhile_ne_append hfront back⟩
  · exact Or.inl ⟨h, dropWhile_ne_of_notMem h⟩

end FirstMark

/-! ## Blanks -/

/-- A text without blanks is not trimmed. -/
theorem trim_of_forall_not {cs : List Char} (h : ∀ c ∈ cs, isBlank c = false) : trim cs = cs := by
  rw [trim, trimStart, dropWhile_of_forall_not h]
  exact dropEndWhile_of_forall_not h

theorem toLower_of_isBlank {c : Char} (h : isBlank c = true) : c.toLower = c := by
  have hcode : ¬(c.toNat ≥ 65 ∧ c.toNat ≤ 90) := by
    simp only [isBlank, Bool.or_eq_true, Bool.and_eq_true, decide_eq_true_eq, beq_iff_eq] at h
    omega
  unfold Char.toLower
  rw [dif_neg]
  intro hupper
  exact hcode ⟨UInt32.le_iff_toNat_le.mp hupper.1, UInt32.le_iff_toNat_le.mp hupper.2⟩

/-- A text that starts and ends with other characters than blanks is not trimmed. -/
theorem trim_cons_concat {first last : Char} (cs : List Char) (hfirst : isBlank first = false)
    (hlast : isBlank last = false) :
    trim (first :: cs ++ [last]) = first :: cs ++ [last] := by
  have hstart : trimStart (first :: cs ++ [last]) = first :: cs ++ [last] := by
    rw [trimStart, List.cons_append, List.dropWhile_cons_of_neg (by simp [hfirst])]
  rw [trim, hstart, trimEnd, dropEndWhile_append_cons _ _ hlast]
  rfl

/-- A text that trimming leaves alone does not start with a blank. -/
theorem isBlank_of_trimStart {cs : List Char} {c : Char} (h : trimStart (c :: cs) = c :: cs) :
    isBlank c = false := by
  by_cases hc : isBlank c = true
  · rw [trimStart, List.dropWhile_cons_of_pos hc] at h
    have hle := (List.dropWhile_sublist isBlank (l := cs)).length_le
    rw [h, List.length_cons] at hle
    omega
  · simpa using hc

/-- A text that trimming leaves alone does not end with a blank. -/
theorem isBlank_of_trimEnd {cs : List Char} {c : Char}
    (h : trimEnd (cs ++ [c]) = cs ++ [c]) : isBlank c = false := by
  have hreverse : trimStart (c :: cs.reverse) = c :: cs.reverse := by
    rw [trimEnd, dropEndWhile, List.reverse_eq_iff, List.reverse_append] at h
    exact h
  exact isBlank_of_trimStart hreverse

/-- Blanks in front of a trimmed text are all that trimming takes away, from the end first. -/
theorem trimStart_trimEnd_append {pad cs : List Char} (hpad : ∀ c ∈ pad, isBlank c = true)
    (hstart : trimStart cs = cs) (hend : trimEnd cs = cs) :
    trimStart (trimEnd (pad ++ cs)) = cs := by
  rcases List.eq_nil_or_concat cs with rfl | ⟨init, last, rfl⟩
  · rw [List.append_nil, trimEnd, dropEndWhile_of_forall hpad]
    rfl
  · rw [List.concat_eq_append] at *
    have hlast := isBlank_of_trimEnd hend
    have hstays : trimEnd (pad ++ (init ++ [last])) = pad ++ (init ++ [last]) := by
      rw [trimEnd, ← List.append_assoc, dropEndWhile_append_cons _ _ hlast]
      rfl
    rw [hstays, trimStart, List.dropWhile_append_of_pos hpad]
    exact hstart

end FormFetch.Text
