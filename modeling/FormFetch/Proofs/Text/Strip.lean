import FormFetch.Proofs.Text.Trim

/-!
# The middle of a text

A text without what is dropped at its two ends, and texts of which some such characters are
lost.

* `strip` leaves the middle, which `Edged` says starts and ends with something that stays.
  `strip_append` and `exists_edged` are the two directions.
* `trim_append` and `exists_trim`: the same for blanks.
* `strip_kept_eq_iff`: losing elements leaves the middle alone exactly if all that is lost is
  outside the middle.
-/

namespace FormFetch.Text

section Middle

variable {α : Type} {p : α → Bool}

/-- A list without its longest start and its longest tail of elements that satisfy `p`. -/
def strip (p : α → Bool) (xs : List α) : List α :=
  dropEndWhile p (xs.dropWhile p)

/-- Neither the first nor the last element satisfies `p`. -/
def Edged (p : α → Bool) (xs : List α) : Prop :=
  (∀ x ∈ xs.head?, p x = false) ∧ ∀ x ∈ xs.getLast?, p x = false

theorem edged_of_forall {xs : List α} (h : ∀ x ∈ xs, p x = false) : Edged p xs :=
  ⟨fun x hx => h x (List.mem_of_mem_head? hx), fun x hx => h x (List.mem_of_mem_getLast? hx)⟩

/-- What is dropped at the ends goes, and the middle stays. -/
theorem strip_append {front middle back : List α} (hfront : ∀ x ∈ front, p x = true)
    (hmiddle : Edged p middle) (hback : ∀ x ∈ back, p x = true) :
    strip p (front ++ (middle ++ back)) = middle := by
  rw [strip, List.dropWhile_append_of_pos hfront]
  rcases List.eq_nil_or_concat middle with rfl | ⟨init, last, rfl⟩
  · have hall : ∀ x ∈ back.dropWhile p, p x = true := fun x hx =>
      hback x ((List.dropWhile_sublist p).mem hx)
    exact dropEndWhile_of_forall hall
  · have hlast : p last = false := hmiddle.2 last (by simp)
    have hstart : (init.concat last ++ back).dropWhile p = init.concat last ++ back := by
      cases init with
      | nil => exact List.dropWhile_cons_of_neg (by simp [hlast])
      | cons first init =>
        have hfirst : p first = false := hmiddle.1 first rfl
        exact List.dropWhile_cons_of_neg (by simp [hfirst])
    rw [hstart, dropEndWhile_append_of_forall _ hback, List.concat_eq_append,
      dropEndWhile_append_cons _ _ hlast]
    rfl

theorem head?_dropWhile (xs : List α) : ∀ x ∈ (xs.dropWhile p).head?, p x = false := by
  intro x hx
  have hnot := List.head?_dropWhile_not p xs
  rw [Option.mem_def.mp hx] at hnot
  exact hnot

/-- Every list has a middle. -/
theorem exists_edged (p : α → Bool) (xs : List α) :
    ∃ front middle back, xs = front ++ (middle ++ back) ∧ (∀ x ∈ front, p x = true) ∧
      Edged p middle ∧ ∀ x ∈ back, p x = true := by
  obtain ⟨back, hback, hall⟩ := exists_append_dropEndWhile p (xs.dropWhile p)
  refine ⟨xs.takeWhile p, strip p xs, back, ?_, List.all_eq_true.mp List.all_takeWhile,
    ⟨fun x hx => ?_, fun x hx => ?_⟩, List.all_eq_true.mp hall⟩
  · rw [strip, ← hback, List.takeWhile_append_dropWhile]
  · refine head?_dropWhile xs x ?_
    rw [strip] at hx
    rw [hback, List.head?_append, Option.mem_def.mp hx]
    rfl
  · rw [strip, dropEndWhile, List.getLast?_reverse] at hx
    exact head?_dropWhile _ x hx

end Middle

/-! ## Blanks -/

/-- Blanks around a text that has none at its ends are trimmed. -/
theorem trim_append {front middle back : List Char} (hfront : ∀ c ∈ front, isBlank c = true)
    (hmiddle : Edged isBlank middle) (hback : ∀ c ∈ back, isBlank c = true) :
    trim (front ++ (middle ++ back)) = middle :=
  strip_append hfront hmiddle hback

/-- All that trimming takes away are blanks around what stays. -/
theorem exists_trim (cs : List Char) :
    ∃ front back, cs = front ++ (trim cs ++ back) ∧ (∀ c ∈ front, isBlank c = true) ∧
      Edged isBlank (trim cs) ∧ ∀ c ∈ back, isBlank c = true := by
  obtain ⟨front, middle, back, rfl, hfront, hmiddle, hback⟩ := exists_edged isBlank cs
  rw [trim_append hfront hmiddle hback]
  exact ⟨front, back, rfl, hfront, hmiddle, hback⟩

/-- Blanks at the end of a text do not matter for trimming. -/
theorem trim_append_blanks (cs : List Char) {pad : List Char} (hpad : ∀ c ∈ pad, isBlank c = true) :
    trim (cs ++ pad) = trim cs := by
  obtain ⟨front, back, hcs, hfront, hmiddle, hback⟩ := exists_trim cs
  have hends : ∀ c ∈ back ++ pad, isBlank c = true := List.forall_mem_append.mpr ⟨hback, hpad⟩
  have hpadded : cs ++ pad = front ++ (trim cs ++ (back ++ pad)) :=
    (congrArg (· ++ pad) hcs).trans (by simp only [List.append_assoc])
  rw [hpadded]
  exact trim_append hfront hmiddle hends

/-- A text that holds something else than blanks is trimmed at either side of it. -/
theorem trim_append_cons (xs ys : List Char) {c : Char} (h : isBlank c = false) :
    trim (xs ++ c :: ys) = trimStart xs ++ c :: trimEnd ys := by
  have hstart : trimStart (xs ++ c :: ys) = trimStart xs ++ c :: ys := by
    have hc : (c :: ys).dropWhile isBlank = c :: ys :=
      List.dropWhile_cons_of_neg (by simp [h])
    rw [trimStart, List.dropWhile_append, hc, trimStart]
    split
    · rename_i hempty
      rw [List.isEmpty_iff.mp hempty, List.nil_append]
    · rfl
  rw [trim, hstart, trimEnd, dropEndWhile_append_cons _ _ h, trimEnd]

theorem trim_eq_nil_iff {cs : List Char} : trim cs = [] ↔ ∀ c ∈ cs, isBlank c = true := by
  constructor
  · intro h
    obtain ⟨front, back, hcs, hfront, -, hback⟩ := exists_trim cs
    rw [h, List.nil_append] at hcs
    rw [hcs]
    exact List.forall_mem_append.mpr ⟨hfront, hback⟩
  · intro h
    exact trim_append_blanks [] h

/-! ## Losses -/

section Losses

variable {α : Type} {p : α → Bool}

/-- What is left of elements that are kept or lost. -/
def kept (xs : List (α × Bool)) : List α :=
  (xs.filter (·.2)).map (·.1)

/-- Elements that are all kept or all lost. -/
def flagged (keeps : Bool) (xs : List α) : List (α × Bool) :=
  xs.map (·, keeps)

@[simp] theorem mem_flagged {keeps : Bool} {xs : List α} {x : α × Bool} :
    x ∈ flagged keeps xs ↔ x.1 ∈ xs ∧ x.2 = keeps := by
  constructor
  · intro hx
    obtain ⟨c, hc, rfl⟩ := List.mem_map.mp hx
    exact ⟨hc, rfl⟩
  · rintro ⟨hx, rfl⟩
    exact List.mem_map.mpr ⟨x.1, hx, rfl⟩

@[simp] theorem map_flagged (keeps : Bool) (xs : List α) : (flagged keeps xs).map (·.1) = xs := by
  rw [flagged, List.map_map]
  exact List.map_id xs

@[simp] theorem kept_flagged_true (xs : List α) : kept (flagged true xs) = xs := by
  rw [kept, List.filter_eq_self.mpr fun x hx => (mem_flagged.mp hx).2, map_flagged]

@[simp] theorem kept_flagged_false (xs : List α) : kept (flagged false xs) = [] := by
  rw [kept, List.filter_eq_nil_iff.mpr fun x hx => by simp [(mem_flagged.mp hx).2]]
  rfl

@[simp] theorem kept_append (xs ys : List (α × Bool)) : kept (xs ++ ys) = kept xs ++ kept ys := by
  rw [kept, List.filter_append, List.map_append]
  rfl

/-- Every lost element has only elements that satisfy `p` in front of it, or only such elements
behind it. -/
def LostOutside (p : α → Bool) (xs : List (α × Bool)) : Prop :=
  ∀ before x after, xs = before ++ (x, false) :: after →
    (∀ y ∈ before, p y.1 = true) ∨ ∀ y ∈ after, p y.1 = true

theorem edged_map {xs : List (α × Bool)} (h : Edged (fun x => p x.1) xs) :
    Edged p (xs.map (·.1)) := by
  constructor <;> intro c hc
  · rw [List.head?_map] at hc
    obtain ⟨x, hx, rfl⟩ := Option.map_eq_some_iff.mp hc
    exact h.1 x hx
  · rw [List.getLast?_map] at hc
    obtain ⟨x, hx, rfl⟩ := Option.map_eq_some_iff.mp hc
    exact h.2 x hx

/-- A middle of which only elements that satisfy `p` are lost stays a middle. -/
theorem edged_kept {xs : List (α × Bool)} (h : Edged (fun x => p x.1) xs)
    (hlost : ∀ x ∈ xs, x.2 = false → p x.1 = true) : Edged p (kept xs) := by
  have hkept : ∀ x ∈ xs, p x.1 = false → x.2 = true := fun x hx hstays =>
    Bool.not_eq_false _ ▸ fun hfalse => by simp [hlost x hx hfalse] at hstays
  constructor
  · cases xs with
    | nil => simp [kept]
    | cons x rest =>
      have hx : p x.1 = false := h.1 x rfl
      have hfirst : (kept (x :: rest)).head? = some x.1 := by
        rw [kept, List.filter_cons_of_pos (hkept x (List.mem_cons_self ..) hx)]
        rfl
      rw [hfirst]
      rintro _ ⟨⟩
      exact hx
  · rcases List.eq_nil_or_concat xs with rfl | ⟨init, x, rfl⟩
    · simp [kept]
    · rw [List.concat_eq_append] at h hkept
      have hx : p x.1 = false := h.2 x (List.getLast?_concat)
      have hlast : (kept (init.concat x)).getLast? = some x.1 := by
        rw [List.concat_eq_append, kept_append, kept, kept,
          List.filter_cons_of_pos (hkept x (by simp) hx)]
        exact List.getLast?_concat
      rw [hlast]
      rintro _ ⟨⟩
      exact hx

theorem kept_eq_iff {xs : List (α × Bool)} :
    kept xs = xs.map (·.1) ↔ ∀ x ∈ xs, x.2 = true := by
  constructor
  · intro h
    have hlength := congrArg List.length h
    rw [kept, List.length_map, List.length_map, List.length_filter_eq_length_iff] at hlength
    exact hlength
  · intro h
    rw [kept, List.filter_eq_self.mpr h]

/-- Nothing is lost of a middle exactly if all that is lost is outside of it. -/
theorem lostOutside_iff {front middle back : List (α × Bool)}
    (hfront : ∀ x ∈ front, p x.1 = true) (hmiddle : Edged (fun x => p x.1) middle)
    (hback : ∀ x ∈ back, p x.1 = true) (hlost : ∀ x ∈ middle, x.2 = false → p x.1 = true) :
    LostOutside p (front ++ (middle ++ back)) ↔ ∀ x ∈ middle, x.2 = true := by
  constructor
  · rintro houtside ⟨c, keeps⟩ hc
    cases keeps with
    | true => rfl
    | false =>
      have hp : p c = true := hlost _ hc rfl
      obtain ⟨before, after, rfl⟩ := List.append_of_mem hc
      -- The first and the last element of the middle are on the two sides of the lost one.
      rcases houtside (front ++ before) c (after ++ back) (by simp) with hbefore | hafter
      · cases before with
        | nil => exact absurd (hmiddle.1 _ rfl) (by simp [hp])
        | cons first before =>
          have hfirst : p first.1 = false := hmiddle.1 _ rfl
          exact absurd (hbefore first (by simp)) (by simp [hfirst])
      · rcases List.eq_nil_or_concat after with rfl | ⟨init, last, rfl⟩
        · have hc : p c = false := hmiddle.2 (c, false) List.getLast?_concat
          exact absurd hp (by simp [hc])
        · have hlast : p last.1 = false := hmiddle.2 last (by
            rw [List.concat_eq_append, ← List.cons_append, ← List.append_assoc]
            exact List.getLast?_concat)
          exact absurd (hafter last (by simp)) (by simp [hlast])
  · intro hall before c after hsplit
    rcases exists_of_append_eq_append_cons hsplit with ⟨tail, rfl, -⟩ | ⟨head, -, hrest⟩
    · exact Or.inl fun y hy => hfront y (List.mem_append_left _ hy)
    · rcases exists_of_append_eq_append_cons hrest with ⟨tail, rfl, -⟩ | ⟨head', -, rfl⟩
      · cases hall (c, false) (by simp)
      · exact Or.inr fun y hy =>
          hback y (List.mem_append_right _ (List.mem_cons_of_mem _ hy))

/-- Losing elements that satisfy `p` leaves the middle alone exactly if all that is lost is outside
the middle. -/
theorem strip_kept_eq_iff {xs : List (α × Bool)} (hlost : ∀ x ∈ xs, x.2 = false → p x.1 = true) :
    strip p (kept xs) = strip p (xs.map (·.1)) ↔ LostOutside p xs := by
  obtain ⟨front, middle, back, rfl, hfront, hmiddle, hback⟩ := exists_edged (fun x => p x.1) xs
  have hinside : ∀ x ∈ middle, x.2 = false → p x.1 = true := fun x hx =>
    hlost x (by simp [hx])
  have hends : ∀ ys : List (α × Bool), (∀ y ∈ ys, p y.1 = true) → ∀ c ∈ kept ys, p c = true := by
    intro ys hys c hc
    obtain ⟨y, hy, rfl⟩ := List.mem_map.mp hc
    exact hys y (List.mem_filter.mp hy).1
  have hall : ∀ ys : List (α × Bool), (∀ y ∈ ys, p y.1 = true) →
      ∀ c ∈ ys.map (·.1), p c = true := by
    intro ys hys c hc
    obtain ⟨y, hy, rfl⟩ := List.mem_map.mp hc
    exact hys y hy
  rw [kept_append, kept_append, strip_append (hends front hfront) (edged_kept hmiddle hinside)
    (hends back hback), List.map_append, List.map_append, strip_append (hall front hfront)
    (edged_map hmiddle) (hall back hback), kept_eq_iff,
    lostOutside_iff hfront hmiddle hback hinside]

end Losses

end FormFetch.Text
