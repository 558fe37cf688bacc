import Mathlib.Data.List.TakeWhile
import FormFetch.Proofs.Text.Trim
import FormFetch.Url.Basic

/-!
# Where an address leads

The origin of an address depends on its front: the scheme and the authority, which ends at
the first slash, question mark or number sign.

There are three groups.

* The front.  `map_origin_parse?` says that nothing else decides on the origin, which is
  then `origin?`.
* What is behind the front.  `authorityIn_append_of_ends` and `origin?_append_of_nil` say
  that it may be put there and cut off.
* The characters that count.  `significant_eq` cuts the end first, so that `lead` is all
  that is left to look at.
-/

namespace FormFetch.Url

open FormFetch.Text

/-! ## The front -/

/-- The authority in what follows a scheme's colon. -/
def authorityIn (rest : List Char) : List Char :=
  (rest.dropWhile isSlash).takeWhile (!endsAuthority ·)

/-- The scheme, and what follows its colon. -/
def opening? (input : List Char) : Option (Scheme × List Char) := do
  let (name, rest) ← splitScheme? input
  let scheme ← Scheme.ofName? name
  return (scheme, rest)

/-- The origin that a scheme and an authority lead to. -/
def originAt? (scheme : Scheme) (authority : List Char) : Option (Scheme × Host × Nat) := do
  let found := splitHost false (splitUserInfo authority).2
  if found.1.isEmpty then none
  let host ← Host.parse? found.1
  let port ← readPort? scheme found.2
  return (scheme, host, port.getD scheme.defaultPort)

/-- The origin that the characters of an address lead to. -/
def origin? (input : List Char) : Option (Scheme × Host × Nat) :=
  (opening? input).bind fun found => originAt? found.1 (authorityIn found.2)

theorem map_origin_ofAuthority? (scheme : Scheme) (input : List Char) :
    (ofAuthority? scheme input).map origin =
      originAt? scheme (input.takeWhile (!endsAuthority ·)) := by
  unfold ofAuthority? originAt?
  simp only [Option.bind_eq_bind]
  split
  · rfl
  · cases Host.parse? (splitHost false (splitUserInfo (input.takeWhile (!endsAuthority ·))).2).1 with
    | none => rfl
    | some host =>
      cases readPort? scheme
          (splitHost false (splitUserInfo (input.takeWhile (!endsAuthority ·))).2).2 with
      | none => rfl
      | some port => rfl

/-- Nothing but the front decides on the origin. -/
theorem map_origin_parse? (text : String) :
    (parse? text).map origin = origin? (significant text.toList) := by
  unfold parse? origin? opening?
  simp only [Option.bind_eq_bind]
  cases splitScheme? (significant text.toList) with
  | none => rfl
  | some found =>
    obtain ⟨name, rest⟩ := found
    simp only [Option.bind_some]
    cases Scheme.ofName? name with
    | none => rfl
    | some scheme =>
      simp only [Option.bind_some]
      exact map_origin_ofAuthority? scheme (rest.dropWhile isSlash)

/-! ## What is behind the front -/

/-- A character that neither belongs to a scheme's name nor follows it. -/
def breaksScheme (c : Char) : Bool :=
  !isSchemeChar c && c != ':'

/-- What does not belong to a scheme's name may follow whatever the scheme is read from. -/
theorem splitScheme?_append {input more : List Char} (h : more.head?.all breaksScheme = true) :
    splitScheme? (input ++ more) =
      (splitScheme? input).map fun found => (found.1, found.2 ++ more) := by
  unfold splitScheme?
  cases hrest : input.dropWhile isSchemeChar with
  | nil =>
    rw [List.dropWhile_append, hrest]
    cases more with
    | nil => rfl
    | cons c rest =>
      have hc : breaksScheme c = true := h
      rw [breaksScheme, Bool.and_eq_true, Bool.not_eq_true', bne_iff_ne] at hc
      simp [hc.1, hc.2]
  | cons c rest =>
    have htake : (input ++ more).takeWhile isSchemeChar = input.takeWhile isSchemeChar := by
      rw [List.takeWhile_append]
      have hlength := congrArg List.length
        (List.takeWhile_append_dropWhile (p := isSchemeChar) (l := input))
      rw [hrest, List.length_append, List.length_cons] at hlength
      rw [if_neg (by omega)]
    rw [List.dropWhile_append, hrest, htake]
    simp only [List.isEmpty_cons, Bool.false_eq_true, if_false, List.cons_append]
    split
    · split
      · simp_all
      · simp_all
    · simp_all

theorem opening?_append (input : List Char) {more : List Char}
    (h : more.head?.all breaksScheme = true) :
    opening? (input ++ more) =
      (opening? input).map fun found => (found.1, found.2 ++ more) := by
  unfold opening?
  rw [splitScheme?_append h]
  cases splitScheme? input with
  | none => rfl
  | some found =>
    show (Scheme.ofName? found.1).bind _ = ((Scheme.ofName? found.1).bind _).map _
    cases Scheme.ofName? found.1 with
    | none => rfl
    | some scheme => rfl

theorem origin?_append (input : List Char) {more : List Char}
    (h : more.head?.all breaksScheme = true) :
    origin? (input ++ more) =
      (opening? input).bind fun found => originAt? found.1 (authorityIn (found.2 ++ more)) := by
  rw [origin?, opening?_append input h, Option.bind_map]
  rfl

/-- Slashes alone are no authority: what follows them is read from its start. -/
theorem authorityIn_append_of_slashes {rest more : List Char} (h : rest.all isSlash = true) :
    authorityIn (rest ++ more) = authorityIn more := by
  rw [authorityIn, List.dropWhile_append_of_pos (List.all_eq_true.mp h), authorityIn]

theorem authorityIn_of_slashes {rest : List Char} (h : rest.all isSlash = true) :
    authorityIn rest = [] := by
  rw [authorityIn, List.dropWhile_eq_nil_iff.mpr (List.all_eq_true.mp h)]
  rfl

theorem dropWhile_isSlash_append {rest : List Char} (more : List Char)
    (h : rest.all isSlash = false) :
    (rest ++ more).dropWhile isSlash = rest.dropWhile isSlash ++ more := by
  rw [List.dropWhile_append, if_neg]
  intro hempty
  rw [List.isEmpty_iff, List.dropWhile_eq_nil_iff, ← List.all_eq_true, h] at hempty
  cases hempty

/-- What starts with the end of an authority changes no authority in front of it. -/
theorem authorityIn_append_of_ends {rest more : List Char} (h : rest.all isSlash = false)
    (hmore : more.head?.all endsAuthority = true) :
    authorityIn (rest ++ more) = authorityIn rest := by
  rw [authorityIn, dropWhile_isSlash_append more h, List.takeWhile_append, authorityIn]
  split
  · rename_i hlength
    have hall := (List.takeWhile_prefix (!endsAuthority ·)).eq_of_length hlength
    cases more with
    | nil => rw [List.takeWhile_nil, List.append_nil, hall]
    | cons c later =>
      have hc : endsAuthority c = true := hmore
      rw [List.takeWhile_cons, hc, hall]
      exact List.append_nil _
  · rfl

theorem breaksScheme_of_endsAuthority {c : Char} (h : endsAuthority c = true) :
    breaksScheme c = true := by
  simp only [endsAuthority, isSlash, endsPath, Bool.or_eq_true, beq_iff_eq] at h
  rcases h with (rfl | rfl) | rfl | rfl <;> decide

theorem head_all_breaksScheme {more : List Char} (h : more.head?.all endsAuthority = true) :
    more.head?.all breaksScheme = true := by
  cases more with
  | nil => rfl
  | cons c rest => exact breaksScheme_of_endsAuthority h

/-- An address that leads somewhere has an authority. -/
theorem exists_of_origin? {input : List Char} {o : Scheme × Host × Nat}
    (h : origin? input = some o) :
    ∃ scheme rest, opening? input = some (scheme, rest) ∧
      originAt? scheme (authorityIn rest) = some o ∧ rest.all isSlash = false := by
  obtain ⟨⟨scheme, rest⟩, hopening, horigin⟩ := Option.bind_eq_some_iff.mp h
  refine ⟨scheme, rest, hopening, horigin, ?_⟩
  rw [Bool.eq_false_iff]
  intro hall
  rw [authorityIn_of_slashes hall] at horigin
  cases horigin

/-- What starts with the end of an authority and holds none itself makes no difference. -/
theorem origin?_append_of_nil {input more : List Char}
    (hmore : more.head?.all endsAuthority = true) (hnil : authorityIn more = []) :
    origin? (input ++ more) = origin? input := by
  have hsame : ∀ rest, authorityIn (rest ++ more) = authorityIn rest := by
    intro rest
    by_cases hslash : rest.all isSlash = true
    · rw [authorityIn_append_of_slashes hslash, authorityIn_of_slashes hslash, hnil]
    · exact authorityIn_append_of_ends (Bool.eq_false_iff.mpr hslash) hmore
  rw [origin?_append input (head_all_breaksScheme hmore), origin?]
  simp only [hsame]

/-! ## The characters that count -/

/-- An address from its first character that counts on, without the characters that count
nowhere. -/
def lead (cs : List Char) : List Char :=
  (cs.dropWhile isControlOrSpace).filter (!isIgnored ·)

/-- Of the two ends it does not matter which is cut first. -/
theorem significant_eq (cs : List Char) :
    significant cs = lead (dropEndWhile isControlOrSpace cs) := by
  rw [significant, lead]
  congr 1
  cases hcs : cs.dropWhile isControlOrSpace with
  | nil =>
    have hall := List.dropWhile_eq_nil_iff.mp hcs
    have hend : dropEndWhile isControlOrSpace cs = [] := by
      rw [dropEndWhile, List.dropWhile_eq_nil_iff.mpr, List.reverse_nil]
      intro c hc
      exact hall c (List.mem_reverse.mp hc)
    rw [hend]
    rfl
  | cons c rest =>
    have hc : isControlOrSpace c = false := by
      have hnot := List.head?_dropWhile_not isControlOrSpace cs
      rw [hcs] at hnot
      simpa using hnot
    have hsplit := List.takeWhile_append_dropWhile (p := isControlOrSpace) (l := cs)
    rw [hcs] at hsplit
    have hall : ∀ d ∈ cs.takeWhile isControlOrSpace, isControlOrSpace d = true :=
      fun d hd => List.mem_takeWhile_imp hd
    have hleft := dropEndWhile_append_cons (p := isControlOrSpace) [] rest hc
    rw [List.nil_append, List.nil_append] at hleft
    rw [hleft, ← hsplit, dropEndWhile_append_cons _ _ hc, List.dropWhile_append_of_pos hall,
      List.dropWhile_cons, hc]
    rfl

theorem lead_append_cons (cs more : List Char) {c : Char} (h : isControlOrSpace c = false) :
    lead (cs ++ c :: more) = lead cs ++ c :: more.filter (!isIgnored ·) := by
  have hc : isIgnored c = false := by
    rw [Bool.eq_false_iff]
    intro hignored
    simp only [isIgnored, Bool.or_eq_true, beq_iff_eq] at hignored
    rcases hignored with (rfl | rfl) | rfl <;> cases h
  have hdrop : (cs ++ c :: more).dropWhile isControlOrSpace =
      cs.dropWhile isControlOrSpace ++ c :: more := by
    rw [List.dropWhile_append]
    split
    · rename_i hempty
      rw [List.isEmpty_iff.mp hempty, List.dropWhile_cons, h]
      rfl
    · rfl
  rw [lead, hdrop, List.filter_append, List.filter_cons, hc, lead]
  rfl

/-- Behind a character that counts the end may be cut without a look at what is in front. -/
theorem significant_append_cons (cs more : List Char) {c : Char}
    (h : isControlOrSpace c = false) :
    ∃ kept, kept.Sublist more ∧ significant (cs ++ c :: more) = lead cs ++ c :: kept := by
  refine ⟨(dropEndWhile isControlOrSpace more).filter (!isIgnored ·), ?_, ?_⟩
  · refine List.filter_sublist.trans ?_
    rw [dropEndWhile, ← List.reverse_sublist, List.reverse_reverse]
    exact List.dropWhile_sublist _
  · rw [significant_eq, dropEndWhile_append_cons _ _ h, lead_append_cons _ _ h]

end FormFetch.Url
