import Mathlib.Data.List.Basic
import FormFetch.Http.Request
import FormFetch.Proofs.Text.Strip
import FormFetch.Proofs.Url.Stray

/-!
# Addresses with blanks around them

Whoever reads an address drops controls and spaces at its ends, whoever trims it drops every
blank.  So an address that is proper when it is trimmed may be none as it stands.

* `origin?_append_stray` and `origin?_of_stray_front` say what stray characters do at the two ends
  of an address.
* `isLegible` is the condition for an address with blanks around it.
* `map_origin_parse?_of_valid` is the result: under the condition the address leads to the same
  origin without being trimmed, and else nowhere.
-/

namespace FormFetch.Url

open Text Http

/-! ## Behind an address -/

/-- Nothing follows the authority: no slash, no query and no fragment. -/
def isBare (input : List Char) : Bool :=
  (opening? input).any fun found => (found.2.dropWhile isSlash).all (!endsAuthority ·)

/-- Stray characters behind an address leave it where it leads, unless they get into its authority;
then it leads nowhere. -/
theorem origin?_append_stray {input more : List Char} {o : Scheme × Host × Nat}
    (hmore : ∀ c ∈ more, isStray c = true) (hne : more ≠ []) (h : origin? input = some o) :
    origin? (input ++ more) = if isBare input then none else some o := by
  obtain ⟨scheme, rest, hopening, horigin, hslash⟩ := exists_of_origin? h
  have hends : ∀ c ∈ more, (!endsAuthority c) = true := by
    intro c hc
    have hmeaning := hasMeaning_of_isStray (hmore c hc)
    simp only [hasMeaning, Bool.or_eq_false_iff] at hmeaning
    rw [hmeaning.1.2]
    rfl
  have hbare : isBare input = (rest.dropWhile isSlash).all (!endsAuthority ·) := by
    rw [isBare, hopening, Option.any_some]
  rw [origin?_append input (head_all_breaksScheme_of_stray hmore), hopening, Option.bind_some,
    hbare]
  have hauthority : authorityIn (rest ++ more) =
      (rest.dropWhile isSlash ++ more).takeWhile (!endsAuthority ·) := by
    rw [authorityIn, dropWhile_isSlash_append more hslash]
  split
  · rename_i hall
    have hwhole : authorityIn rest = rest.dropWhile isSlash :=
      List.takeWhile_eq_self_iff.mpr (List.all_eq_true.mp hall)
    have hlonger : authorityIn (rest ++ more) = authorityIn rest ++ more := by
      rw [hauthority, hwhole, List.takeWhile_eq_self_iff]
      exact List.forall_mem_append.mpr ⟨List.all_eq_true.mp hall, hends⟩
    rw [hlonger]
    exact originAt?_append_of_stray hmore hne scheme
  · rename_i hstop
    have hsame : authorityIn (rest ++ more) = authorityIn rest := by
      rw [hauthority, List.takeWhile_append, authorityIn, if_neg]
      intro hlength
      have hwhole := (List.takeWhile_prefix (!endsAuthority ·)).eq_of_length hlength
      exact hstop (List.all_eq_true.mpr (List.takeWhile_eq_self_iff.mp hwhole))
    rw [hsame]
    exact horigin

theorem significant_append_control (cs : List Char) {back : List Char}
    (h : ∀ c ∈ back, isControlOrSpace c = true) : significant (cs ++ back) = significant cs := by
  rw [significant_eq, significant_eq, dropEndWhile_append_of_forall _ h]

/-- Of blanks of which one counts, some stay behind an address. -/
theorem exists_significant_append (cs : List Char) {back : List Char}
    (hback : ∀ c ∈ back, isBlank c = true) (h : back.all isControlOrSpace = false) :
    ∃ more, (∀ c ∈ more, isStray c = true) ∧ more ≠ [] ∧
      significant (cs ++ back) = significant cs ++ more := by
  have hstray : ∀ c, isBlank c = true → isStray c = true := by
    intro c hc
    rw [isStray, hc, Bool.or_true]
  obtain ⟨c, hmem, hc⟩ := List.all_eq_false.mp h
  obtain ⟨init, last, rfl⟩ := List.append_of_mem hmem
  obtain ⟨kept, hkept, hsignificant⟩ :=
    significant_append_cons (cs ++ init) last (Bool.eq_false_iff.mpr hc)
  obtain ⟨tail, hcs, htail⟩ := exists_append_dropEndWhile isControlOrSpace cs
  have hcut : ∀ d ∈ tail ++ init, isStray d = true := by
    intro d hd
    rcases List.mem_append.mp hd with hd | hd
    · rw [isStray, List.all_eq_true.mp htail d hd, Bool.true_or]
    · exact hstray d (hback d (List.mem_append_left _ hd))
  obtain ⟨more, hmore, hlead⟩ := lead_append (dropEndWhile isControlOrSpace cs) hcut
  rw [← List.append_assoc, ← hcs, ← significant_eq] at hlead
  refine ⟨more ++ c :: kept, ?_, by simp, ?_⟩
  · intro d hd
    rcases List.mem_append.mp hd with hd | hd
    · exact hmore d hd
    · refine hstray d (hback d (List.mem_append_right _ ?_))
      exact (hkept.cons_cons c).mem hd
  · rw [← List.append_assoc, hsignificant, hlead, List.append_assoc]

/-! ## In front of an address -/

theorem significant_control_append {front : List Char}
    (h : ∀ c ∈ front, isControlOrSpace c = true) (cs : List Char) :
    significant (front ++ cs) = significant cs := by
  rw [significant, List.dropWhile_append_of_pos h, significant]

/-- What starts with no scheme leads nowhere. -/
theorem origin?_cons_of_breaksScheme {c : Char} (h : breaksScheme c = true) (rest : List Char) :
    origin? (c :: rest) = none := by
  rw [breaksScheme, Bool.and_eq_true, Bool.not_eq_true', bne_iff_ne] at h
  have hscheme : splitScheme? (c :: rest) = none := by
    rw [splitScheme?, List.dropWhile_cons, h.1]
    split
    · rename_i hcolon
      exact absurd (List.cons.inj hcolon).1 h.2
    · rfl
  rw [origin?, opening?, hscheme]
  rfl

/-- With a blank that counts in front an address leads nowhere. -/
theorem origin?_of_stray_front {front : List Char} (hfront : ∀ c ∈ front, isBlank c = true)
    (h : front.all isControlOrSpace = false) (cs : List Char) :
    origin? (significant (front ++ cs)) = none := by
  obtain ⟨c, rest, hrest⟩ : ∃ c rest, front.dropWhile isControlOrSpace = c :: rest := by
    refine List.exists_cons_of_ne_nil fun hnil => ?_
    rw [List.all_eq_true.mpr (List.dropWhile_eq_nil_iff.mp hnil)] at h
    cases h
  have hsplit := List.takeWhile_append_dropWhile (p := isControlOrSpace) (l := front)
  rw [hrest] at hsplit
  have hcontrol : isControlOrSpace c = false :=
    head?_dropWhile front c (by rw [hrest]; rfl)
  have hstray : isStray c = true := by
    rw [isStray, hfront c (hsplit ▸ List.mem_append_right _ (List.mem_cons_self ..)), Bool.or_true]
  have hbreaks : breaksScheme c = true := by
    have hmeaning := hasMeaning_of_isStray hstray
    simp only [hasMeaning, Bool.or_eq_false_iff, Bool.not_eq_false'] at hmeaning
    exact hmeaning.2
  obtain ⟨kept, -, hsignificant⟩ := significant_append_cons [] (rest ++ cs) hcontrol
  rw [List.nil_append] at hsignificant
  rw [← hsplit, List.append_assoc,
    significant_control_append fun d hd => List.mem_takeWhile_imp hd, List.cons_append, hsignificant]
  exact origin?_cons_of_breaksScheme hbreaks kept

/-! ## Both ends -/

/-- The blanks around an address count for nothing: in front there are only controls and spaces,
and behind it also, unless it goes on behind its authority. -/
def isLegible (text : String) : Bool :=
  (text.toList.takeWhile isBlank).all isControlOrSpace &&
    ((text.toList.reverse.takeWhile isBlank).all isControlOrSpace ||
      !isBare (significant (trim text.toList)))

/-- Where a proper address leads if it is not trimmed. -/
theorem map_origin_parse?_of_valid {text : String} {address : Url}
    (h : validateUrl text = .ok address) :
    (parse? text).map origin = if isLegible text then some address.origin else none := by
  have horigin : origin? (significant (trim text.toList)) = some address.origin := by
    have hparse := map_origin_parse? (trimmed text)
    rw [validateUrl_eq_ok_iff.mp h, trimmed, String.toList_ofList] at hparse
    exact hparse.symm
  obtain ⟨front, back, htext, hfront, hmiddle, hback⟩ := exists_trim text.toList
  rw [map_origin_parse?, isLegible]
  generalize htrim : trim text.toList = middle at horigin htext hmiddle ⊢
  have hne : middle ≠ [] := by
    rintro rfl
    cases horigin
  have htake : text.toList.takeWhile isBlank = front := by
    rw [htext]
    refine takeWhile_append_of_head? hfront ?_
    rw [List.head?_append_of_ne_nil _ hne]
    exact hmiddle.1
  have htakeBack : text.toList.reverse.takeWhile isBlank = back.reverse := by
    rw [htext, List.reverse_append, List.reverse_append, List.append_assoc]
    refine takeWhile_append_of_head? (fun c hc => hback c (List.mem_reverse.mp hc)) ?_
    rw [List.head?_append_of_ne_nil _ (by simpa using hne), List.head?_reverse]
    exact hmiddle.2
  rw [htake, htakeBack, List.all_reverse, htext]
  cases hcontrol : front.all isControlOrSpace with
  | false =>
    rw [origin?_of_stray_front hfront hcontrol]
    rfl
  | true =>
    rw [significant_control_append (List.all_eq_true.mp hcontrol), Bool.true_and]
    cases hcontrolBack : back.all isControlOrSpace with
    | true =>
      rw [significant_append_control _ (List.all_eq_true.mp hcontrolBack), horigin]
      rfl
    | false =>
      obtain ⟨more, hmore, hmoreNe, hsignificant⟩ :=
        exists_significant_append middle hback hcontrolBack
      rw [hsignificant, origin?_append_stray hmore hmoreNe horigin, Bool.false_or]
      cases isBare (significant middle) <;> rfl

example : isLegible "http://forms.example\u00a0" = false ∧
    isLegible " http://forms.example/\u00a0" = true := by
  decide +kernel

end FormFetch.Url
