import FormFetch.Proofs.Credentials.Keys
import FormFetch.Proofs.Url.Stray
import FormFetch.Http.Request
import FormFetch.Prompt.Basic

/-!
# Keys and origins

The store compares addresses as texts, a request goes where the address leads.  The two
agree: an address that is covered by the key of another one leads to the same origin, if
both lead anywhere.

* `originOf?_eq_of_covers` is the result for keys.
* `originOf?_addressKey` and `originOf?_before` say that an address keeps its origin as a
  key, and without the query of a device.
-/

namespace FormFetch

open Text Url Http

/-- The origin that a text leads to as an address. -/
def originOf? (text : String) : Option (Scheme × Host × Nat) :=
  origin? (significant (trim text.toList))

theorem originOf?_eq_some_iff {text : String} {o : Scheme × Host × Nat} :
    originOf? text = some o ↔ ∃ url, validateUrl text = .ok url ∧ url.origin = o := by
  have htrim : originOf? text = (Url.parse? (trimmed text)).map origin := by
    rw [map_origin_parse?, trimmed, String.toList_ofList, originOf?]
  rw [htrim, Option.map_eq_some_iff]
  simp only [validateUrl_eq_ok_iff]

/-! ## The end of an address -/

/-- What is cut at the end of an address is stray. -/
theorem origin?_significant_of_lead {cs : List Char} {o : Scheme × Host × Nat}
    (h : origin? (lead cs) = some o) : origin? (significant cs) = some o := by
  obtain ⟨tail, hcs, htail⟩ := exists_append_dropEndWhile isControlOrSpace cs
  rw [significant_eq]
  rw [hcs] at h
  refine origin?_lead_of_append (fun c hc => ?_) h
  rw [isStray, List.all_eq_true.mp htail c hc, Bool.true_or]

theorem origin?_trimEnd_of_lead {cs : List Char} {o : Scheme × Host × Nat}
    (h : origin? (lead cs) = some o) : origin? (significant (trimEnd cs)) = some o := by
  obtain ⟨tail, hcs, htail⟩ := exists_append_dropEndWhile isBlank cs
  rw [hcs] at h
  refine origin?_significant_of_lead (origin?_lead_of_append (fun c hc => ?_) h)
  rw [isStray, List.all_eq_true.mp htail c hc, Bool.or_true]

theorem isControlOrSpace_of_endsAuthority {c : Char} (h : endsAuthority c = true) :
    isControlOrSpace c = false := by
  simp only [endsAuthority, isSlash, endsPath, Bool.or_eq_true, beq_iff_eq] at h
  rcases h with (rfl | rfl) | rfl | rfl <;> decide

/-- An address that goes on after its authority leads where its front leads, if what it goes on
with is slashes only or does not start with one. -/
theorem origin?_lead_of_append_cons {cs more : List Char} {c : Char} {o : Scheme × Host × Nat}
    (hc : endsAuthority c = true)
    (hmore : endsPath c = true ∨ (c :: more).all isSlash = true)
    (h : origin? (significant (cs ++ c :: more)) = some o) : origin? (lead cs) = some o := by
  obtain ⟨kept, hkept, hsignificant⟩ :=
    significant_append_cons cs more (isControlOrSpace_of_endsAuthority hc)
  have hnil : authorityIn (c :: kept) = [] := by
    rcases hmore with hpath | hslashes
    · have hslash : isSlash c = false := by
        rw [endsPath, Bool.or_eq_true, beq_iff_eq, beq_iff_eq] at hpath
        rcases hpath with rfl | rfl <;> rfl
      rw [authorityIn, List.dropWhile_cons, hslash]
      simp only [Bool.false_eq_true, if_false, List.takeWhile_cons, hc, Bool.not_true]
    · refine authorityIn_of_slashes (List.all_eq_true.mpr fun d hd => ?_)
      exact List.all_eq_true.mp hslashes d ((hkept.cons_cons c).mem hd)
  have hends : (c :: kept).head?.all endsAuthority = true := hc
  rw [hsignificant, origin?_append_of_nil hends hnil] at h
  exact h

/-! ## Keys -/

/-- The key of an address leads where the address leads. -/
theorem origin?_of_key {address : String} {o : Scheme × Host × Nat}
    (h : originOf? address = some o) :
    (trim address.toList = (addressKey address).toList ∨
      origin? (lead (addressKey address).toList) = some o) ∧
    origin? (significant (addressKey address).toList) = some o := by
  obtain ⟨tail, htrim, htail⟩ :=
    exists_append_dropEndWhile (· == '/') (trim address.toList)
  have hkey : (addressKey address).toList = dropEndWhile (· == '/') (trim address.toList) := by
    rw [addressKey, String.toList_ofList]
  rw [← hkey] at htrim
  rw [originOf?, htrim] at h
  rcases tail with _ | ⟨c, tail⟩
  · rw [List.append_nil] at h htrim
    exact ⟨Or.inl htrim, h⟩
  · have hslashes : (c :: tail).all isSlash = true := by
      rw [List.all_eq_true] at htail ⊢
      intro d hd
      rw [isSlash, htail d hd, Bool.true_or]
    have hc : endsAuthority c = true := by
      rw [endsAuthority, List.all_eq_true.mp hslashes c (List.mem_cons_self ..), Bool.true_or]
    have hlead := origin?_lead_of_append_cons hc (Or.inr hslashes) h
    exact ⟨Or.inr hlead, origin?_significant_of_lead hlead⟩

/-- An address keeps its origin when it is a key. -/
theorem originOf?_addressKey {address : String} {o : Scheme × Host × Nat}
    (h : originOf? address = some o) : originOf? (addressKey address) = some o := by
  have hstart : trimStart (addressKey address).toList = (addressKey address).toList :=
    IsKey.trimStart_eq ⟨address, rfl⟩
  rw [originOf?, trim, hstart]
  rcases origin?_of_key h with ⟨hsame | hlead, hkey⟩
  · have hend : trimEnd (addressKey address).toList = (addressKey address).toList := by
      rw [← hsame, trim, trimEnd_idem]
    rw [hend]
    exact hkey
  · exact origin?_trimEnd_of_lead hlead

theorem endsAuthority_of_isBoundary {c : Char} {more : List Char}
    (h : isBoundary (c :: more) = true) : endsAuthority c = true := by
  simp only [isBoundary, Bool.or_eq_true, beq_iff_eq] at h
  rcases h with (rfl | rfl) | rfl <;> decide

/-- An address that is covered by the key of another one leads to the same origin. -/
theorem originOf?_eq_of_covers {address wanted : String} {o o' : Scheme × Host × Nat}
    (h : originOf? address = some o) (h' : originOf? wanted = some o')
    (hcovers : covers (addressKey address) (trimmed wanted) = true) : o' = o := by
  obtain ⟨-, ⟨ending, hwanted⟩, hboundary⟩ := covers_iff.mp hcovers
  rw [← hwanted, List.drop_left] at hboundary
  rw [trimmed, String.toList_ofList] at hwanted
  rw [originOf?, ← hwanted] at h'
  have hkey := (origin?_of_key h).2
  rcases ending with _ | ⟨c, ending⟩
  · rw [List.append_nil, hkey] at h'
    exact (Option.some.inj h').symm
  · have hc := endsAuthority_of_isBoundary hboundary
    obtain ⟨kept, -, hsignificant⟩ :=
      significant_append_cons (addressKey address).toList ending
        (isControlOrSpace_of_endsAuthority hc)
    -- The key may end with controls that do not count at the end of an address.
    obtain ⟨tail, hsplit, htail⟩ :=
      exists_append_dropEndWhile isControlOrSpace (addressKey address).toList
    have hstray : ∀ d ∈ tail, isStray d = true := by
      intro d hd
      rw [isStray, List.all_eq_true.mp htail d hd, Bool.true_or]
    obtain ⟨more, hmore, hlead⟩ := lead_append (dropEndWhile isControlOrSpace _) hstray
    rw [← hsplit, ← significant_eq] at hlead
    rw [hsignificant, hlead] at h'
    have hends : (c :: kept).head?.all endsAuthority = true := hc
    exact origin?_eq_of_append hmore hends hkey h'

/-! ## Addresses of devices -/

theorem exists_before (word cs : List Char) :
    ∃ rest, cs = Prompt.before word cs ++ rest ∧ (rest = [] ∨ word <+: rest) := by
  induction cs with
  | nil => exact ⟨[], rfl, Or.inl rfl⟩
  | cons c rest ih =>
    rw [Prompt.before]
    split
    · rename_i hword
      exact ⟨c :: rest, rfl, Or.inr (List.isPrefixOf_iff_prefix.mp hword)⟩
    · obtain ⟨more, hsplit, hmore⟩ := ih
      exact ⟨more, by rw [List.cons_append, ← hsplit], hmore⟩

/-- An address keeps its origin without the query of a device. -/
theorem originOf?_before {address : String} {o : Scheme × Host × Nat}
    (h : originOf? address = some o) :
    originOf? (String.ofList (Prompt.before Prompt.deviceQuery.toList address.toList)) =
      some o := by
  obtain ⟨rest, hsplit, hrest⟩ := exists_before Prompt.deviceQuery.toList address.toList
  generalize Prompt.before Prompt.deviceQuery.toList address.toList = front at hsplit ⊢
  rw [originOf?, String.toList_ofList]
  rcases hrest with rfl | ⟨more, rfl⟩
  · rw [List.append_nil] at hsplit
    rwa [← hsplit]
  · have hquery : Prompt.deviceQuery.toList ++ more = '?' :: ("deviceID=".toList ++ more) := rfl
    have hstart : trimStart (front ++ '?' :: ("deviceID=".toList ++ more)) =
        trimStart front ++ '?' :: ("deviceID=".toList ++ more) := by
      have hmark : isBlank '?' = false := by decide
      rw [trimStart, List.dropWhile_append, List.dropWhile_cons, hmark]
      split
      · rename_i hempty
        rw [trimStart, List.isEmpty_iff.mp hempty]
        rfl
      · rfl
    rw [originOf?, hsplit, hquery, trim, hstart, trimEnd,
      dropEndWhile_append_cons _ _ (by decide)] at h
    rw [trim]
    exact origin?_trimEnd_of_lead
      (origin?_lead_of_append_cons (c := '?') (by decide) (Or.inl (by decide)) h)

end FormFetch
