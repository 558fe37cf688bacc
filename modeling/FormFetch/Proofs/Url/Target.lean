import FormFetch.Url.Basic

/-!
# What a request asks for

The path and the query of an address that was read consist of printable ASCII
characters, whatever the address was read from: everything else is percent-encoded.

* `plain_encode` is the reason, `plain_target_of_parse?` the result.
-/

namespace FormFetch.Url

open FormFetch.Text

/-- Printable ASCII. -/
def Plain (cs : List Char) : Prop :=
  ∀ c ∈ cs, Percent.inControls c = false

instance (cs : List Char) : Decidable (Plain cs) :=
  decidable_of_iff (cs.all (!Percent.inControls ·) = true) (by simp [Plain])

theorem plain_append {cs ds : List Char} : Plain (cs ++ ds) ↔ Plain cs ∧ Plain ds :=
  List.forall_mem_append

theorem plain_flatMap {α : Type} {f : α → List Char} {xs : List α}
    (h : ∀ x ∈ xs, Plain (f x)) : Plain (xs.flatMap f) := by
  intro c hc
  obtain ⟨x, hx, hc⟩ := List.mem_flatMap.mp hc
  exact h x hx c hc

/-! ## Percent-encoding -/

theorem plain_ofByte (b : UInt8) : Plain (Percent.ofByte b) := by
  have hdigit : ∀ n < 16, Percent.inControls (Percent.digit n) = false := by
    decide
  have hb := b.toNat_lt
  intro c hc
  simp only [Percent.ofByte, List.mem_cons, List.not_mem_nil, or_false] at hc
  rcases hc with rfl | rfl | rfl
  · rfl
  · exact hdigit _ (by omega)
  · exact hdigit _ (by omega)

/-- A set with all controls in it leaves printable characters only. -/
theorem plain_encode {inSet : Char → Bool} (h : ∀ c, Percent.inControls c = true → inSet c = true)
    (cs : List Char) : Plain (Percent.encode inSet cs) := by
  refine plain_flatMap fun c _ => ?_
  split
  · exact plain_flatMap fun b _ => plain_ofByte b
  · rename_i hc
    intro d hd
    rw [List.mem_singleton] at hd
    subst hd
    exact Bool.eq_false_iff.mpr fun hcontrol => hc (h d hcontrol)

theorem inPath_of_inControls (c : Char) (h : Percent.inControls c = true) :
    Percent.inPath c = true := by
  simp [Percent.inPath, Percent.inFragment, h]

theorem inQuery_of_inControls (c : Char) (h : Percent.inControls c = true) :
    Percent.inQuery c = true := by
  simp [Percent.inQuery, h]

/-! ## Path and query -/

/-- All segments are printable. -/
def PlainSegments (segments : List String) : Prop :=
  ∀ s ∈ segments, Plain s.toList

theorem PlainSegments.concat {segments : List String} (h : PlainSegments segments) {s : String}
    (hs : Plain s.toList) : PlainSegments (segments ++ [s]) := by
  intro t ht
  rcases List.mem_append.mp ht with ht | ht
  · exact h t ht
  · rw [List.mem_singleton] at ht
    exact ht ▸ hs

theorem PlainSegments.leave {segments : List String} (h : PlainSegments segments) :
    PlainSegments (Url.leave segments) := by
  unfold Url.leave
  split
  · exact h
  · exact fun s hs => h s (List.dropLast_sublist segments |>.mem hs)

theorem plain_resolve {segments : List (List Char)} {done : List String}
    (hdone : PlainSegments done) (h : ∀ s ∈ segments, Plain s) :
    PlainSegments (resolve done segments) := by
  have hempty : Plain "".toList := fun c hc => by simp at hc
  induction done, segments using resolve.induct with
  | case1 done => exact hdone.concat hempty
  | case2 done last hdouble =>
    rw [resolve, if_pos hdouble]
    exact hdone.leave.concat hempty
  | case3 done last hdouble hsingle =>
    rw [resolve, if_neg hdouble, if_pos hsingle]
    exact hdone.concat hempty
  | case4 done last hdouble hsingle =>
    rw [resolve, if_neg hdouble, if_neg hsingle]
    refine hdone.concat ?_
    rw [String.toList_ofList]
    exact h last (List.mem_cons_self ..)
  | case5 done segment rest hne hdouble ih =>
    rw [resolve, if_pos hdouble]
    · exact ih hdone.leave fun s hs => h s (List.mem_cons_of_mem _ hs)
    · exact hne
  | case6 done segment rest hne hdouble hsingle ih =>
    rw [resolve, if_neg hdouble, if_pos hsingle]
    · exact ih hdone fun s hs => h s (List.mem_cons_of_mem _ hs)
    · exact hne
  | case7 done segment rest hne hdouble hsingle ih =>
    rw [resolve, if_neg hdouble, if_neg hsingle]
    · refine ih (hdone.concat ?_) fun s hs => h s (List.mem_cons_of_mem _ hs)
      rw [String.toList_ofList]
      exact h segment (List.mem_cons_self ..)
    · exact hne

theorem plain_rawSegments (path : List Char) : ∀ s ∈ rawSegments path, Plain s := by
  intro s hs
  obtain ⟨raw, -, rfl⟩ := List.mem_map.mp hs
  exact plain_encode inPath_of_inControls raw

theorem plain_readQuery {input : List Char} {query : String} (h : readQuery input = some query) :
    Plain query.toList := by
  unfold readQuery at h
  split at h
  · rw [← Option.some.inj h, String.toList_ofList]
    exact plain_encode inQuery_of_inControls _
  · cases h

theorem plain_path {u : Url} (h : PlainSegments u.segments) : Plain u.path.toList := by
  rw [path, String.toList_join]
  refine plain_flatMap fun s hs => ?_
  obtain ⟨segment, hsegment, rfl⟩ := List.mem_map.mp hs
  rw [String.toList_append, plain_append]
  exact ⟨by decide, h segment hsegment⟩

theorem plain_target {u : Url} (h : PlainSegments u.segments)
    (hq : ∀ query, u.query = some query → Plain query.toList) : Plain u.target.toList := by
  unfold target
  split
  · rename_i query hquery
    rw [String.toList_append, String.toList_append, plain_append, plain_append]
    exact ⟨⟨plain_path h, by decide⟩, hq query hquery⟩
  · exact plain_path h

theorem plain_target_withPath (u : Url) (input : List Char) :
    Plain (u.withPath [] input).target.toList := by
  refine plain_target ?_ fun query hquery => plain_readQuery hquery
  exact plain_resolve (fun s hs => by cases hs) (plain_rawSegments _)

/-- The path of an address that was read is resolved from nothing. -/
theorem exists_withPath {scheme : Scheme} {input : List Char} {url : Url}
    (h : ofAuthority? scheme input = some url) :
    ∃ (u : Url) (path : List Char), url = u.withPath [] path := by
  simp only [ofAuthority?, Option.bind_eq_bind] at h
  split at h
  · cases h
  · obtain ⟨host, -, h⟩ := Option.bind_eq_some_iff.mp h
    obtain ⟨port, -, h⟩ := Option.bind_eq_some_iff.mp h
    exact ⟨_, _, (Option.some.inj h).symm⟩

/-- The target of an address that was read is printable. -/
theorem plain_target_of_parse? {text : String} {url : Url} (h : parse? text = some url) :
    Plain url.target.toList := by
  simp only [parse?, Option.bind_eq_bind, Option.bind_eq_some_iff] at h
  obtain ⟨name, -, scheme, -, hauthority⟩ := h
  obtain ⟨u, path, rfl⟩ := exists_withPath hauthority
  exact plain_target_withPath u path

end FormFetch.Url
