import Mathlib.Data.Nat.Digits.Defs
import FormFetch.Proofs.Credentials.Lookup

/-!
# The revision tells stores apart

Every change of a store moves its revision, and nothing else does.  So whoever remembers a
revision knows later whether there is anything to save.

* `Edit` is an operation that may change a store, `edited` the store after some of them.
* `edited_cases`: some edits leave a store as it is, or move its revision on.
* `edited_eq_of_revision`: at two moments with one revision the store is the same, also when
  revisions are counted with 64 bits.
-/

namespace FormFetch.Store

/-- An operation that may change a store. -/
inductive Edit where
  | set (address username password : String)
  | clear (address : String)

/-- A store after one more edit. -/
def Edit.apply (store : Store) : Edit → Store
  | set address username password => store.set address username password
  | clear address => store.clear address

/-- A store after some edits. -/
def edited (store : Store) (edits : List Edit) : Store :=
  edits.foldl Edit.apply store

variable {store : Store}

@[simp] theorem edited_nil (store : Store) : store.edited [] = store := rfl

@[simp] theorem edited_cons (store : Store) (edit : Edit) (rest : List Edit) :
    store.edited (edit :: rest) = (edit.apply store).edited rest := rfl

theorem edited_append (store : Store) (edits more : List Edit) :
    store.edited (edits ++ more) = (store.edited edits).edited more :=
  List.foldl_append

/-- One edit leaves a store as it is, or is the next change. -/
theorem apply_cases (store : Store) (edit : Edit) :
    edit.apply store = store ∨ (edit.apply store).revision = store.revision + 1 := by
  cases edit with
  | set address username password => exact Or.inr rfl
  | clear address =>
    cases hcontains : store.contains address with
    | false => exact Or.inl (clear_of_not_contains hcontains)
    | true =>
      right
      rw [Edit.apply, clear, if_pos hcontains]

/-- Some edits leave a store as it is, or move its revision by their number at most. -/
theorem edited_cases (store : Store) (edits : List Edit) :
    store.edited edits = store ∨ store.revision < (store.edited edits).revision ∧
      (store.edited edits).revision ≤ store.revision + edits.length := by
  induction edits generalizing store with
  | nil => exact Or.inl rfl
  | cons edit rest ih =>
    rw [edited_cons, List.length_cons]
    rcases apply_cases store edit with hsame | hnext
    · rw [hsame]
      rcases ih store with hrest | hrest
      · exact Or.inl hrest
      · right
        omega
    · right
      rcases ih (edit.apply store) with hrest | hrest
      · rw [hrest]
        omega
      · omega

/-- A store is reached from another one by edits. -/
theorem Reachable.edited (h : store.Reachable) (edits : List Edit) :
    (store.edited edits).Reachable := by
  induction edits generalizing store with
  | nil => exact h
  | cons edit rest ih =>
    cases edit with
    | set address username password => exact ih (h.set address username password)
    | clear address => exact ih (h.clear address)

/-- Some edits that bring back the revision, counted with 64 bits, leave the store as it is. -/
theorem edited_eq_self {edits : List Edit} (hlength : edits.length < 2 ^ 64)
    (h : (store.edited edits).revision % 2 ^ 64 = store.revision % 2 ^ 64) :
    store.edited edits = store := by
  rcases edited_cases store edits with hsame | ⟨hlt, hbound⟩
  · exact hsame
  · omega

/-- Among fewer than 2^64 edits the revision tells at which moments the store is the same, even if
it is counted with 64 bits. -/
theorem edited_eq_of_revision {edits : List Edit} (hlength : edits.length < 2 ^ 64) {i j : Nat}
    (h : (store.edited (edits.take i)).revision % 2 ^ 64 =
      (store.edited (edits.take j)).revision % 2 ^ 64) :
    store.edited (edits.take i) = store.edited (edits.take j) := by
  -- The later moment is reached from the earlier one by the edits in between.
  have hordered : ∀ {i j : Nat}, i ≤ j →
      (store.edited (edits.take i)).revision % 2 ^ 64 =
        (store.edited (edits.take j)).revision % 2 ^ 64 →
      store.edited (edits.take i) = store.edited (edits.take j) := by
    intro i j hle hrevision
    have hsplit : edits.take j = edits.take i ++ (edits.drop i).take (j - i) := by
      rw [← List.take_add, Nat.add_sub_cancel' hle]
    have hmore : ((edits.drop i).take (j - i)).length < 2 ^ 64 := by
      rw [List.length_take, List.length_drop]
      omega
    rw [hsplit, edited_append] at hrevision ⊢
    exact (edited_eq_self hmore hrevision.symm).symm
  rcases Nat.le_total i j with hle | hle
  · exact hordered hle h
  · exact (hordered hle h.symm).symm

end FormFetch.Store
