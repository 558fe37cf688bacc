import FormFetch.Text.NormalForm

/-!
# The end of a composed text

A control or a space is neither taken apart nor combined with what is in front of it, so
that a text that ends with one has a composed form that ends with it.

* `decompose_concat`, `reorder_concat` and `combine_concat` are the three steps,
  `compose_concat` the result.
-/

namespace FormFetch.Text.NormalForm

open FormFetch.Text.Composition

/-- The second codes of a table of pairs. -/
def seconds : List Nat → List Nat
  | _ :: b :: _ :: rest => b :: seconds rest
  | _ => []

theorem mem_seconds_of_pairIn {first second code : Nat} {table : List Nat}
    (h : pairIn first second table = some code) : second ∈ seconds table := by
  fun_induction pairIn first second table with
  | case1 a b composed rest heq =>
    rw [heq.2]
    exact List.mem_cons_self ..
  | case2 a b composed rest hne ih => exact List.mem_cons_of_mem _ (ih h)
  | case3 => cases h

theorem lt_of_mem_seconds : ∀ code ∈ seconds pairTable.toList, 0x20 < code := by
  decide +kernel

theorem parts?_of_lt : ∀ code < 0x21, parts? code = none := by
  decide +kernel

variable {c : Char}

theorem combiningClass_of_le (h : c.toNat ≤ 0x20) : combiningClass c = 0 := by
  rw [combiningClass, if_pos (by omega)]

/-- Nothing combines with a control or a space behind it. -/
theorem combine?_of_le (h : c.toNat ≤ 0x20) (start : Char) : combine? start c = none := by
  have hsyllable : syllable? start.toNat c.toNat = none := by
    rw [syllable?, if_neg (by omega), if_neg (by omega)]
  have hpair : pairIn start.toNat c.toNat pairTable.toList = none := by
    cases hfound : pairIn start.toNat c.toNat pairTable.toList with
    | none => rfl
    | some code =>
      have hlt := lt_of_mem_seconds c.toNat (mem_seconds_of_pairIn hfound)
      omega
  rw [combine?, hsyllable, hpair]
  rfl

theorem decompose_concat (h : c.toNat ≤ 0x20) (text : List Char) :
    decompose (text ++ [c]) = decompose text ++ [c] := by
  have hself : takeApart 4 c.toNat = [c.toNat] := by
    rw [takeApart, parts?_of_lt c.toNat (by omega)]
  rw [decompose, List.flatMap_append, List.flatMap_singleton, hself, List.map_singleton,
    Char.ofNat_toNat, decompose]

theorem place_concat (h : c.toNat ≤ 0x20) (d : Char) (text : List Char) :
    place d (text ++ [c]) = place d text ++ [c] := by
  induction text with
  | nil =>
    show place d [c] = [d] ++ [c]
    rw [place, combiningClass_of_le h, if_neg (by omega)]
    rfl
  | cons e rest ih =>
    rw [List.cons_append, place, place]
    split
    · rw [ih, List.cons_append]
    · rfl

theorem reorder_concat (h : c.toNat ≤ 0x20) (text : List Char) :
    reorder (text ++ [c]) = reorder text ++ [c] := by
  unfold reorder
  induction text with
  | nil => rfl
  | cons d rest ih => rw [List.cons_append, List.foldr_cons, ih, place_concat h, List.foldr_cons]

theorem gather_concat (h : c.toNat ≤ 0x20) (start : Char) (kept : List Char) (last : Nat)
    (text : List Char) : gather start kept last (text ++ [c]) = gather start kept last text ++ [c] := by
  induction text generalizing start kept last with
  | nil =>
    have hnone : (if (kept.isEmpty || decide (last < combiningClass c)) = true then
        combine? start c else none) = none := by
      rw [combine?_of_le h, ite_self]
    show gather start kept last [c] = start :: kept ++ [c]
    rw [gather, hnone]
    dsimp only
    rw [if_pos (combiningClass_of_le h), gather]
  | cons d rest ih =>
    rw [List.cons_append, gather, gather]
    split
    · exact ih ..
    · split
      · rw [ih, List.append_assoc]
      · exact ih ..

theorem combine_concat (h : c.toNat ≤ 0x20) (text : List Char) :
    combine (text ++ [c]) = combine text ++ [c] := by
  induction text with
  | nil =>
    show combine [c] = [c]
    rw [combine, if_pos (combiningClass_of_le h), gather]
  | cons d rest ih =>
    rw [List.cons_append, combine, combine]
    split
    · exact gather_concat h ..
    · rw [ih, List.cons_append]

/-- A control or a space at the end of a text stays there. -/
theorem compose_concat (h : c.toNat ≤ 0x20) (text : List Char) :
    compose (text ++ [c]) = compose text ++ [c] := by
  rw [compose, decompose_concat h, reorder_concat h, combine_concat h, compose]

end FormFetch.Text.NormalForm
