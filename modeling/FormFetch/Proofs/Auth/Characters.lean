import FormFetch.Proofs.Auth.Digest

/-!
# The characters of a challenge

The texts of a challenge consist of characters of the header that it was read from: nothing that
takes away blanks, quotes or backslashes brings in a character of its own.  A server can only send
what a header field may hold, so that nothing it sends keeps an answer from being sent.

* `subset_of_mem_pairs` says it of the parameters, and `sendable_of_parse?` of challenges.
* `isSome_fieldValue?_answer` says that an answer fits into a header field if its texts do, and
  `isSome_fieldValue?_answer_iff` that the username alone decides about it when the rest comes
  from a header.
-/

namespace FormFetch.Auth.Param

open FormFetch.Text

/-! ## Parameters -/

theorem quoted_subset (input : List Char) :
    (quoted input).1 ⊆ input ∧ (quoted input).2 ⊆ input := by
  fun_induction quoted input with
  | case1 => exact ⟨List.Subset.refl _, List.Subset.refl _⟩
  | case2 rest => exact ⟨List.nil_subset _, List.subset_cons_self ..⟩
  | case3 c rest text after h ih =>
    rw [h] at ih
    obtain ⟨htext, hafter⟩ := ih
    have hrest : rest ⊆ '\\' :: c :: rest :=
      List.subset_cons_of_subset _ (List.subset_cons_self ..)
    refine ⟨?_, List.Subset.trans hafter hrest⟩
    exact List.cons_subset.mpr ⟨by simp, List.Subset.trans htext hrest⟩
  | case4 => exact ⟨List.nil_subset _, List.nil_subset _⟩
  | case5 c rest _ _ _ text after h ih =>
    rw [h] at ih
    obtain ⟨htext, hafter⟩ := ih
    exact ⟨List.cons_subset_cons _ htext, List.subset_cons_of_subset _ hafter⟩

theorem value_subset (input : List Char) : (value input).1 ⊆ input ∧ (value input).2 ⊆ input := by
  unfold value
  split
  · rename_i rest
    obtain ⟨htext, hafter⟩ := quoted_subset rest
    exact ⟨List.subset_cons_of_subset _ htext, List.subset_cons_of_subset _ hafter⟩
  · refine ⟨fun c hc => ?_, (List.dropWhile_sublist _).subset⟩
    exact (List.takeWhile_sublist _).subset (mem_of_mem_dropEndWhile hc)

theorem toList_of_mem_named {key text : List Char} {p : String × String}
    (h : p ∈ named key text) : p.2.toList = text := by
  unfold named at h
  split at h
  · cases h
  · rw [List.mem_singleton] at h
    rw [h, String.toList_ofList]

/-- The value of a parameter consists of characters of the list. -/
theorem subset_of_mem_pairs {input : List Char} {p : String × String} (h : p ∈ pairs input) :
    p.2.toList ⊆ input := by
  induction hlength : input.length using Nat.strongRecOn generalizing input with
  | ind n ih =>
    have hstart : (input.dropWhile isSeparator).dropWhile isKeyChar ⊆ input :=
      ((List.dropWhile_sublist _).trans (List.dropWhile_sublist _)).subset
    have hshort := Nat.le_trans (length_dropWhile_le isKeyChar (input.dropWhile isSeparator))
      (length_dropWhile_le isSeparator input)
    rw [pairs_eq] at h
    split at h
    · rename_i tail htail
      rw [htail] at hstart hshort
      have htail : trimStart tail ⊆ input :=
        List.Subset.trans (List.dropWhile_sublist _).subset
          (List.subset_of_cons_subset hstart)
      obtain ⟨htext, hafter⟩ := value_subset (trimStart tail)
      rcases List.mem_append.mp h with h | h
      · rw [toList_of_mem_named h]
        exact List.Subset.trans htext htail
      · have hvalue := length_value_le (trimStart tail)
        have htrim := length_dropWhile_le isBlank tail
        rw [← trimStart] at htrim
        rw [List.length_cons] at hshort
        exact List.Subset.trans (ih _ (by omega) h rfl) (List.Subset.trans hafter htail)
    · rename_i c rest hrest
      rw [hrest] at hstart hshort
      rw [List.length_cons] at hshort
      exact List.Subset.trans (ih _ (by omega) h rfl) (List.subset_of_cons_subset hstart)
    · cases h

theorem mem_of_lookup {name text : String} {params : List (String × String)}
    (h : lookup name params = some text) : (name, text) ∈ params := by
  obtain ⟨p, hp, rfl⟩ := Option.map_eq_some_iff.mp h
  have hname : p.1 = name := by simpa using List.find?_some hp
  exact hname ▸ List.mem_reverse.mp (List.mem_of_find?_eq_some hp)

/-! ## What is written -/

theorem mem_escape_of_mem {text : List Char} {c : Char} (h : c ∈ text) : c ∈ escape text := by
  refine List.mem_flatMap.mpr ⟨c, h, ?_⟩
  split <;> simp

theorem mem_chars_of_mem_text {w : Written} {c : Char} (h : c ∈ w.text.toList) : c ∈ w.chars := by
  cases w with
  | quoted text => exact List.mem_append_left _ (List.mem_cons_of_mem _ (mem_escape_of_mem h))
  | verbatim text => exact List.mem_append_left _ (List.mem_cons_of_mem _ h)
  | token text => exact h

theorem write_subset_writeAll {p : String × Written} {params : List (String × Written)}
    (h : p ∈ params) : write p ⊆ writeAll params := by
  induction params with
  | nil => cases h
  | cons q rest ih =>
    cases rest with
    | nil =>
      rw [List.mem_singleton] at h
      rw [h, writeAll_singleton]
      exact List.Subset.refl _
    | cons q' more =>
      rw [writeAll_cons_cons]
      rcases List.mem_cons.mp h with rfl | h
      · exact List.subset_append_left ..
      · exact fun c hc => List.mem_append_right _
          (List.mem_cons_of_mem _ (List.mem_cons_of_mem _ (ih h hc)))

/-- Every text that is written down can be seen. -/
theorem mem_writeAll_of_mem_text {p : String × Written} {params : List (String × Written)}
    (h : p ∈ params) {c : Char} (hc : c ∈ p.2.text.toList) : c ∈ writeAll params :=
  write_subset_writeAll h (List.mem_append_right _
    (List.mem_cons_of_mem _ (mem_chars_of_mem_text hc)))

end FormFetch.Auth.Param

namespace FormFetch.Auth.Digest

open FormFetch.Text FormFetch.Http

/-! ## Challenges -/

/-- The texts of a challenge can stand in a header field. -/
structure Challenge.Sendable (c : Challenge) : Prop where
  realm : ∀ ch ∈ c.realm.toList, isFieldChar ch = true
  nonce : ∀ ch ∈ c.nonce.toList, isFieldChar ch = true
  opaqueValue : ∀ text, c.opaqueValue = some text → ∀ ch ∈ text.toList, isFieldChar ch = true

/-- How the parts of a challenge are looked up, one after the other. -/
theorem ofParams?_eq (params : List (String × String)) :
    Challenge.ofParams? params =
      (Param.lookup "nonce" params).bind fun nonce =>
        ((Param.lookup "algorithm" params).elim (some .md5) Algorithm.ofName?).bind fun algorithm =>
          ((Param.lookup "qop" params).elim (some false) fun options =>
              if Challenge.listsAuth options then some true else none).bind fun offersAuth =>
            some {
              realm := (Param.lookup "realm" params).getD ""
              nonce
              opaqueValue := Param.lookup "opaque" params
              algorithm
              offersAuth
              stale := (Param.lookup "stale" params).any (sameIgnoringCase · "true") } := by
  unfold Challenge.ofParams?
  cases Param.lookup "algorithm" params <;> cases Param.lookup "qop" params
  case some.some | none.some =>
    simp only [Option.elim_some]
    split <;> rfl
  all_goals rfl

/-- The texts of a challenge are values of its parameters. -/
theorem texts_of_ofParams? {params : List (String × String)} {c : Challenge}
    (h : Challenge.ofParams? params = some c) :
    c.realm = (Param.lookup "realm" params).getD "" ∧
      Param.lookup "nonce" params = some c.nonce ∧
      c.opaqueValue = Param.lookup "opaque" params := by
  rw [ofParams?_eq] at h
  obtain ⟨nonce, hnonce, h⟩ := Option.bind_eq_some_iff.mp h
  obtain ⟨algorithm, -, h⟩ := Option.bind_eq_some_iff.mp h
  obtain ⟨offersAuth, -, h⟩ := Option.bind_eq_some_iff.mp h
  cases h
  exact ⟨rfl, hnonce, rfl⟩

theorem sendable_of_ofParams? {params : List (String × String)} {c : Challenge}
    (h : Challenge.ofParams? params = some c)
    (hparams : ∀ p ∈ params, ∀ ch ∈ p.2.toList, isFieldChar ch = true) : c.Sendable := by
  obtain ⟨hrealm, hnonce, hgiven⟩ := texts_of_ofParams? h
  refine ⟨?realm, hparams _ (Param.mem_of_lookup hnonce), fun text htext => ?opaqueValue⟩
  case realm =>
    rw [hrealm]
    cases hlookup : Param.lookup "realm" params with
    | none => simp
    | some realm => exact hparams _ (Param.mem_of_lookup hlookup)
  case opaqueValue => exact hparams _ (Param.mem_of_lookup (hgiven.symm.trans htext))

/-- A challenge that was read from a text for header fields can be answered in one. -/
theorem sendable_of_parse? {header : String} {c : Challenge}
    (h : Challenge.parse? header = some c) (hheader : ∀ ch ∈ header.toList, isFieldChar ch = true) :
    c.Sendable := by
  unfold Challenge.parse? at h
  dsimp only at h
  split at h
  · cases h
  · rename_i blank rest hrest
    split at h
    · refine sendable_of_ofParams? h fun p hp ch hch => hheader ch ?_
      have htrim : ch ∈ trim header.toList :=
        (List.dropWhile_sublist _).subset (hrest ▸ List.mem_cons_of_mem _
          (Param.subset_of_mem_pairs hp hch))
      exact (List.dropWhile_sublist _).subset (mem_of_mem_dropEndWhile htrim)
    · cases h

/-! ## Answers -/

section Answer

variable {c : Challenge} {credentials : Credentials} {method uri cnonce : String} {count : UInt32}

/-- An answer fits into a header field exactly if its texts do. -/
theorem isSome_fieldValue?_answer (hcnonce : Verbatim cnonce) :
    (fieldValue? (c.answer credentials method uri count cnonce)).isSome ↔
      Fit c credentials.username uri cnonce := by
  constructor
  · intro hfits
    rw [fieldValue?_eq] at hfits
    have hall : ∀ ch ∈ (c.answer credentials method uri count cnonce).toList,
        isFieldChar ch = true := by
      by_contra hnot
      rw [if_neg fun hall => hnot (List.all_eq_true.mp hall)] at hfits
      cases hfits
    have htext : ∀ name {text}, (name, Param.Written.quoted text) ∈
        c.params credentials.username credentials.password method uri count cnonce →
        ∀ ch ∈ text.toList, isFieldChar ch = true := by
      intro name text hp ch hch
      refine hall ch ?_
      rw [answer_eq, String.toList_ofList]
      exact List.mem_append_right _
        (List.mem_cons_of_mem _ (Param.mem_writeAll_of_mem_text hp hch))
    exact
      { username := htext "username" (by simp [Challenge.params])
        realm := htext "realm" (by simp [Challenge.params])
        nonce := htext "nonce" (by simp [Challenge.params])
        opaqueValue := fun text h => htext "opaque" (by simp [Challenge.params, h])
        uri := htext "uri" (by simp [Challenge.params])
        cnonce := hcnonce }
  · intro hfit
    rw [fieldValue?_answer hfit]
    rfl

/-- The username alone decides whether an answer to a challenge from a header fits. -/
theorem isSome_fieldValue?_answer_iff (hc : c.Sendable)
    (huri : ∀ ch ∈ uri.toList, isFieldChar ch = true) (hcnonce : Verbatim cnonce) :
    (fieldValue? (c.answer credentials method uri count cnonce)).isSome ↔
      ∀ ch ∈ credentials.username.toList, isFieldChar ch = true := by
  rw [isSome_fieldValue?_answer hcnonce]
  exact ⟨fun hfit => hfit.username, fun husername =>
    ⟨husername, hc.realm, hc.nonce, hc.opaqueValue, huri, hcnonce⟩⟩

end Answer

end FormFetch.Auth.Digest
