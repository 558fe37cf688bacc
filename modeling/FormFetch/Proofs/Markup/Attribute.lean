import FormFetch.Proofs.Markup.Reference
import Mathlib.Data.List.Nodup

/-!
# The inside of a tag is read back

A writer of names and attributes beside their reader.

* `isName` are the names over letters, digits and a few marks; none of their characters
  means something else inside a tag.
* `write` is the writer, with one space before each attribute.
* `readAttribute_write` reads one attribute with whatever follows it, and `attributes_write`
  and `name_write` are the results.
-/

namespace FormFetch.Markup.Tag

open FormFetch.Text
open FormFetch.Markup.Reference (escape)

/-! ## Names -/

/-- A character of a name. -/
def isNameChar (c : Char) : Bool :=
  c.isAlphanum || c == '.' || c == '-' || c == '_' || c == ':'

/-- A name starts with a letter or a low line. -/
def isName (name : String) : Bool :=
  match name.toList with
  | [] => false
  | first :: rest => (first.isAlpha || first == '_') && rest.all isNameChar

/-- The first character and the others of a name. -/
theorem exists_cons_of_isName {name : String} (h : isName name = true) :
    ∃ first rest, name.toList = first :: rest ∧ (first.isAlpha = true ∨ first = '_') ∧
      ∀ c ∈ name.toList, isNameChar c = true := by
  unfold isName at h
  split at h
  · cases h
  · rename_i first rest hname
    rw [Bool.and_eq_true, Bool.or_eq_true, beq_iff_eq] at h
    refine ⟨first, rest, hname, h.1, ?_⟩
    rw [hname, List.forall_mem_cons]
    refine ⟨?_, List.all_eq_true.mp h.2⟩
    rcases h.1 with hfirst | rfl
    · simp [isNameChar, Char.isAlphanum, hfirst]
    · rfl

theorem isNameChar_of_mem {name : String} (h : isName name = true) {c : Char}
    (hc : c ∈ name.toList) : isNameChar c = true := by
  obtain ⟨-, -, -, -, hchars⟩ := exists_cons_of_isName h
  exact hchars c hc

theorem ne_of_isNameChar {c d : Char} (h : isNameChar c = true) (hd : isNameChar d = false) :
    c ≠ d := by
  rintro rfl
  exact Bool.eq_false_iff.mp hd h

theorem isSpace_of_isNameChar {c : Char} (h : isNameChar c = true) : isSpace c = false := by
  refine Bool.eq_false_iff.mpr fun hspace => ?_
  rcases isSpace_iff.mp hspace with rfl | rfl | rfl | rfl <;> exact absurd h (by decide)

/-! ## The writer -/

/-- An attribute in quotes, behind a space. -/
def writeAttribute (entry : String × String) : List Char :=
  ' ' :: (entry.1.toList ++ '=' :: '"' :: (escape (fun _ => false) entry.2.toList ++ ['"']))

/-- The inside of a tag. -/
def write (name : String) (attributes : List (String × String)) : List Char :=
  name.toList ++ attributes.flatMap writeAttribute

/-! ## Reading -/

theorem readValue_append (key : List Char) (start pos : Nat) {value : List Char}
    (h : '"' ∉ value) (rest : List Char) :
    ∃ stop, readValue key start pos ('"' :: (value ++ '"' :: rest)) =
      .ok ⟨key, value, start, rest, stop⟩ := by
  have htake : (value ++ '"' :: rest).takeWhile (· != '"') = value := takeWhile_ne_append h rest
  have hdrop : (value ++ '"' :: rest).dropWhile (· != '"') = '"' :: rest :=
    dropWhile_ne_append h rest
  have hstart : ('"' :: (value ++ '"' :: rest)).dropWhile isSpace = '"' :: (value ++ '"' :: rest) :=
    rfl
  unfold readValue
  simp only [hstart, true_or, if_true, htake, hdrop]
  exact ⟨_, rfl⟩

/-- An attribute is read with whatever follows its closing quote. -/
theorem readAttribute_write {seen : List (List Char × Nat)} (start : Nat) {first : Char}
    {key value : List Char} (hkey : ∀ c ∈ first :: key, isNameChar c = true)
    (hnew : first :: key ∉ seen.map (·.1)) (hvalue : '"' ∉ value) (rest : List Char) :
    ∃ stop, readAttribute seen start first (key ++ '=' :: '"' :: (value ++ '"' :: rest)) =
      .ok ⟨first :: key, value, start, rest, stop⟩ := by
  have hchars : ∀ c ∈ key, (c != '=' && !isSpace c) = true := by
    intro c hc
    have hname := hkey c (List.mem_cons_of_mem _ hc)
    rw [isSpace_of_isNameChar hname, Bool.not_false, Bool.and_true, bne_iff_ne]
    exact ne_of_isNameChar hname (by decide)
  have hend : ∀ c ∈ ('=' :: '"' :: (value ++ '"' :: rest)).head?,
      (c != '=' && !isSpace c) = false := by
    simp
  have htake := takeWhile_append_of_head? hchars hend
  have hdrop := dropWhile_append_of_head? hchars hend
  have hequals : ('=' :: '"' :: (value ++ '"' :: rest)).dropWhile isSpace =
      '=' :: '"' :: (value ++ '"' :: rest) := rfl
  have hfind : seen.find? (·.1 == first :: key) = none := by
    rw [List.find?_eq_none]
    intro entry hentry heq
    exact hnew (List.mem_map.mpr ⟨entry, hentry, beq_iff_eq.mp heq⟩)
  unfold readAttribute
  simp only [htake, hdrop, hequals, hfind]
  exact readValue_append _ _ _ hvalue rest

theorem quote_notMem_escape (text : List Char) : '"' ∉ escape (fun _ => false) text :=
  fun hmem => Reference.ne_of_mem_escape hmem (by decide) rfl

/-- An attribute is read in front of the others, if its name is a new one. -/
theorem attributesFrom_writeAttribute {seen : List (List Char × Nat)} {pos : Nat}
    {entry : String × String} {rest : List Char} {others : List (String × String)}
    (hname : isName entry.1 = true) (hnew : entry.1.toList ∉ seen.map (·.1))
    (hothers : ∀ start stop,
      attributesFrom (seen ++ [(entry.1.toList, start)]) stop rest = .ok others) :
    attributesFrom seen pos (writeAttribute entry ++ rest) = .ok (entry :: others) := by
  obtain ⟨first, key, hcons, -, hchars⟩ := exists_cons_of_isName hname
  rw [hcons] at hnew hchars
  have hfirst : ¬isSpace first = true := by
    rw [isSpace_of_isNameChar (hchars first (List.mem_cons_self ..))]
    exact Bool.false_ne_true
  have hstart : (writeAttribute entry ++ rest).dropWhile isSpace = first ::
      (key ++ '=' :: '"' :: (escape (fun _ => false) entry.2.toList ++ '"' :: rest)) := by
    rw [writeAttribute, hcons, List.cons_append, List.dropWhile_cons_of_pos (by decide),
      List.cons_append, List.cons_append, List.dropWhile_cons_of_neg hfirst]
    simp
  have hvalue : Reference.expand (escape (fun _ => false) entry.2.toList) = .ok entry.2.toList :=
    Reference.expand_escape (fun _ hspace => absurd hspace Bool.false_ne_true) _
  rw [attributesFrom]
  split
  · rename_i hnil
    rw [hstart] at hnil
    cases hnil
  · rename_i found rest' hfound
    rw [hstart, List.cons.injEq] at hfound
    obtain ⟨rfl, rfl⟩ := hfound
    obtain ⟨stop, hread⟩ := readAttribute_write _ hchars hnew
      (quote_notMem_escape entry.2.toList) rest
    split
    · rename_i hfault
      rw [hread] at hfault
      cases hfault
    · rename_i found hfound
      rw [hread] at hfound
      cases hfound
      simp only [hvalue, ← hcons, hothers, String.ofList_toList]
      rfl

/-- The attributes of an element are read back. -/
theorem attributesFrom_flatMap {entries : List (String × String)}
    (hnames : ∀ entry ∈ entries, isName entry.1 = true) (hnodup : (entries.map (·.1)).Nodup)
    {seen : List (List Char × Nat)}
    (hnew : ∀ entry ∈ entries, entry.1.toList ∉ seen.map (·.1)) (pos : Nat) :
    attributesFrom seen pos (entries.flatMap writeAttribute) = .ok entries := by
  induction entries generalizing seen pos with
  | nil =>
    rw [List.flatMap_nil, attributesFrom]
    rfl
  | cons entry rest ih =>
    rw [List.forall_mem_cons] at hnames hnew
    rw [List.map_cons, List.nodup_cons] at hnodup
    rw [List.flatMap_cons]
    refine attributesFrom_writeAttribute hnames.1 hnew.1 fun start stop => ?_
    refine ih hnames.2 hnodup.2 (fun other hother => ?_) stop
    rw [List.map_append, List.mem_append, List.map_singleton, List.mem_singleton, not_or]
    refine ⟨hnew.2 other hother, fun heq => hnodup.1 ?_⟩
    rw [← String.toList_inj.mp heq]
    exact List.mem_map_of_mem hother

section Inside

variable {tagName : String} {entries : List (String × String)}

theorem name_write (h : isName tagName = true) : name (write tagName entries) = tagName.toList := by
  have hchars : ∀ c ∈ tagName.toList, (!isSpace c) = true := by
    intro c hc
    rw [isSpace_of_isNameChar (isNameChar_of_mem h hc)]
    rfl
  have hend : ∀ c ∈ (entries.flatMap writeAttribute).head?, (!isSpace c) = false := by
    cases entries with
    | nil => simp
    | cons entry rest => simp [writeAttribute, isSpace]
  exact takeWhile_append_of_head? hchars hend

/-- The attributes of a tag are read back. -/
theorem attributes_write (h : isName tagName = true)
    (hnames : ∀ entry ∈ entries, isName entry.1 = true) (hnodup : (entries.map (·.1)).Nodup) :
    attributes (write tagName entries) = .ok entries := by
  rw [attributes, name_write h, write, List.drop_left]
  exact attributesFrom_flatMap hnames hnodup (fun _ _ => List.not_mem_nil) _

end Inside

end FormFetch.Markup.Tag
