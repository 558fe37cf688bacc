import FormFetch.Proofs.Settings.File

/-!
# Quotations in a settings file

A text is written between double quotes.  Two readers look for them: comments are told by all the
quotes in front of them, the value by its first and its last character.

* `IsQuoted` is what a reader sees who takes the first two quotes of a line for the ends of its
  text.  `isQuoted_iff` says when that is the text that is read.
* `Settles` is the value of the last line that sets a key, and `exists_settles` and
  `exists_entry_of_settles` say that it is the one that is kept.
* `read_quotations` is the result for whole files.
-/

namespace FormFetch.Settings

open FormFetch.Text

/-! ## One line -/

/-- The first quotation of a line, with nothing but blanks and a comment behind it. -/
def IsQuoted (line text : List Char) : Prop :=
  ∃ front margin, line = front ++ inQuotes text ++ margin ∧ '"' ∉ front ∧ '"' ∉ text ∧
    IsMargin margin

variable {line : List Char} {key : Key}

/-- The first quotation of a line is the text that is read, exactly if no double quote stands
within this text; and else there is none. -/
theorem isQuoted_iff {inner text : List Char} (h : Sets line key (inQuotes inner)) :
    IsQuoted line text ↔ text = inner ∧ '"' ∉ inner := by
  obtain ⟨front, blanks, cut, hline, hkept, hfront, hblanks, hcut⟩ := h.exists_line
  have hfree : '"' ∉ front := fun hquote => (hfront '"' hquote).1 rfl
  constructor
  · rintro ⟨front', margin, hline', hfree', htext, hmargin⟩
    have hsame : front ++ '"' :: (inner ++ '"' :: (blanks ++ cut)) =
        front' ++ '"' :: (text ++ '"' :: margin) := by
      rw [hline] at hline'
      simpa [inQuotes] using hline'
    -- Both readings open at the first quote of the line.  Where they close is told by what the
    -- comment leaves, which ends with the last quote.
    obtain ⟨rfl, -⟩ := append_cons_inj hfree hfree' hsame
    obtain ⟨blanks', hblanks', hblank⟩ := exists_blanks_of_isMargin hmargin
    have hunquoted : (Content.text (String.ofList text)).Unquoted := by
      rw [Content.Unquoted, String.toList_ofList]
      exact htext
    have hkept' : withoutComment false line = front ++ (inQuotes text ++ blanks') := by
      rw [hline', List.append_assoc, withoutComment_plain hfront,
        withoutComment_value (spells_ofList text) hunquoted, hblanks']
    have hvalue : inQuotes text ++ blanks' = inQuotes inner ++ blanks := by
      rw [hkept, List.append_assoc] at hkept'
      exact (List.append_cancel_left hkept').symm
    have hends : text ++ '"' :: blanks' = inner ++ '"' :: blanks := by
      simpa [inQuotes] using hvalue
    have hquote : ∀ {pad : List Char}, (∀ c ∈ pad, isBlank c = true) → '"' ∉ pad :=
      fun hpad hmem => (ne_of_isBlank (hpad _ hmem)).1 rfl
    obtain ⟨rfl, -⟩ := append_cons_inj_right (hquote hblank) (hquote hblanks) hends
    exact ⟨rfl, htext⟩
  · rintro ⟨rfl, hinner⟩
    have hmargin : IsMargin (blanks ++ cut) := ⟨blanks, cut, rfl, hblanks, hcut⟩
    exact ⟨front, blanks ++ cut, by simpa using hline, hfree, hinner, hmargin⟩

/-! ## The last line of a key -/

/-- The value of the last line that sets a key. -/
def Settles (lines : List (List Char)) (key : Key) (value : List Char) : Prop :=
  ∃ before line after, lines = before ++ line :: after ∧ Sets line key value ∧
    ∀ l ∈ after, ∀ v, ¬Sets l key v

variable {lines : List (List Char)} {reads : List (Option Entry)} {value : List Char}

theorem settles_cons :
    Settles (line :: lines) key value ↔
      Settles lines key value ∨ Sets line key value ∧ ∀ l ∈ lines, ∀ v, ¬Sets l key v := by
  constructor
  · rintro ⟨before, line', after, hlines, hsets, hafter⟩
    cases before with
    | nil =>
      obtain ⟨rfl, rfl⟩ := List.cons.inj hlines
      exact Or.inr ⟨hsets, hafter⟩
    | cons first before =>
      obtain ⟨rfl, rfl⟩ := List.cons.inj hlines
      exact Or.inl ⟨before, line', after, rfl, hsets, hafter⟩
  · rintro (⟨before, line', after, rfl, hsets, hafter⟩ | ⟨hsets, hlines⟩)
    · exact ⟨line :: before, line', after, rfl, hsets, hafter⟩
    · exact ⟨[], line, lines, rfl, hsets, hlines⟩

theorem Settles.exists_sets (h : Settles lines key value) : ∃ l ∈ lines, Sets l key value := by
  obtain ⟨before, line, after, rfl, hsets, -⟩ := h
  exact ⟨line, by simp, hsets⟩

theorem lastFor?_reads_cons (read : Option Entry) :
    lastFor? key (List.reduceOption (read :: reads)) =
      (lastFor? key reads.reduceOption).or (read.filter fun e => e.key = key) := by
  cases read with
  | none =>
    rw [List.reduceOption_cons_of_none, Option.filter_none, Option.or_none]
  | some e =>
    rw [List.reduceOption_cons_of_some, lastFor?_cons, Option.filter_some]
    by_cases h : e.key = key
    · rw [if_pos h, if_pos (decide_eq_true h)]
    · rw [if_neg h, if_neg (by simpa using h)]

theorem Settles.unique {value' : List Char} (h : Settles lines key value)
    (h' : Settles lines key value') : value' = value := by
  induction lines with
  | nil =>
    obtain ⟨l, hmem, -⟩ := h.exists_sets
    cases hmem
  | cons line lines ih =>
    rcases settles_cons.mp h with hrest | ⟨hsets, hnone⟩
    · rcases settles_cons.mp h' with hrest' | ⟨-, hnone'⟩
      · exact ih hrest hrest'
      · obtain ⟨l, hmem, hl⟩ := hrest.exists_sets
        exact absurd hl (hnone' l hmem value)
    · rcases settles_cons.mp h' with hrest' | ⟨hsets', -⟩
      · obtain ⟨l, hmem, hl⟩ := hrest'.exists_sets
        exact absurd hl (hnone l hmem value')
      · exact (hsets.unique hsets').2

/-- One line: it sets the key, or it does not. -/
theorem reads_cases {read : Option Entry} (h : Reads line read) (key : Key) :
    (∃ e v, (read.filter fun e => e.key = key) = some e ∧ Sets line key v ∧ e.content.Spells v) ∨
      (read.filter fun e => e.key = key) = none ∧ ∀ v, ¬Sets line key v := by
  cases read with
  | none => exact Or.inr ⟨rfl, fun v hsets => hsets.not_isIdle h⟩
  | some e =>
    obtain ⟨v, hsets, hspells⟩ := h
    rw [Option.filter_some]
    by_cases hkey : e.key = key
    · rw [if_pos (decide_eq_true hkey)]
      exact Or.inl ⟨e, v, rfl, hkey ▸ hsets, hspells⟩
    · rw [if_neg (by simpa using hkey)]
      exact Or.inr ⟨rfl, fun v' hsets' => hkey (hsets'.unique hsets).1⟩

/-- All lines: the last one that sets the key brings the entry that is kept, or none does. -/
theorem settles_cases (h : List.Forall₂ Reads lines reads) (key : Key) :
    (∃ e v, lastFor? key reads.reduceOption = some e ∧ Settles lines key v ∧ e.content.Spells v) ∨
      lastFor? key reads.reduceOption = none ∧ ∀ l ∈ lines, ∀ v, ¬Sets l key v := by
  induction h with
  | nil => exact Or.inr ⟨rfl, by simp⟩
  | @cons line read lines reads hline _ ih =>
    rw [lastFor?_reads_cons]
    -- A line behind this one has the last word, if there is one that sets the key.
    rcases ih with ⟨e, v, hlast, hsettles, hspells⟩ | ⟨hlast, hnone⟩
    · rw [hlast, Option.some_or]
      exact Or.inl ⟨e, v, rfl, settles_cons.mpr (Or.inl hsettles), hspells⟩
    · rw [hlast, Option.none_or]
      rcases reads_cases hline key with ⟨e, v, hread, hsets, hspells⟩ | ⟨hread, hsets⟩
      · exact Or.inl ⟨e, v, hread, settles_cons.mpr (Or.inr ⟨hsets, hnone⟩), hspells⟩
      · exact Or.inr ⟨hread, List.forall_mem_cons.mpr ⟨hsets, hnone⟩⟩

/-! ## Whole files -/

variable {text : List Char} {settings : Settings}

theorem settles_of_read (h : read text = .ok settings) (key : Key) :
    (∃ e v, settings.held? key = some e ∧ Settles (text.splitOn '\n') key v ∧
      e.content.Spells v) ∨
      settings.held? key = none ∧ ∀ l ∈ text.splitOn '\n', ∀ v, ¬Sets l key v := by
  obtain ⟨⟨reads, hreads, rfl⟩, -⟩ := read_eq_ok_iff.mp h
  rw [held?_appliedAll, held?_empty, Option.or_none]
  exact settles_cases hreads key

/-- What is kept for a key stands in the last line that sets it. -/
theorem exists_settles (h : read text = .ok settings) {e : Entry}
    (he : settings.held? key = some e) :
    ∃ v, Settles (text.splitOn '\n') key v ∧ e.content.Spells v := by
  rcases settles_of_read h key with ⟨e', v, he', hsettles, hspells⟩ | ⟨hnone, -⟩
  · obtain rfl := Option.some.inj (he.symm.trans he')
    exact ⟨v, hsettles, hspells⟩
  · rw [hnone] at he
    cases he

/-- The last line that sets a key is kept. -/
theorem exists_entry_of_settles (h : read text = .ok settings)
    (hsettles : Settles (text.splitOn '\n') key value) :
    ∃ e, settings.held? key = some e ∧ e.content.Spells value := by
  rcases settles_of_read h key with ⟨e, v, he, hsettles', hspells⟩ | ⟨-, hnone⟩
  · rw [hsettles'.unique hsettles]
    exact ⟨e, he, hspells⟩
  · obtain ⟨l, hmem, hsets⟩ := hsettles.exists_sets
    exact absurd hsets (hnone l hmem value)

/-- The username that is kept stands in the last line for it. -/
theorem username_eq_some_iff (h : read text = .ok settings) {name : String} :
    settings.username = some name ↔
      Settles (text.splitOn '\n') .username (inQuotes name.toList) := by
  constructor
  · intro hname
    have he : settings.held? .username = some (.username name) := by
      rw [held?, hname, Option.map_some]
    obtain ⟨v, hsettles, hspells⟩ := exists_settles h he
    obtain rfl : v = inQuotes name.toList := hspells
    exact hsettles
  · intro hsettles
    obtain ⟨e, he, hspells⟩ := exists_entry_of_settles h hsettles
    rw [held?, Option.map_eq_some_iff] at he
    obtain ⟨name', hname', rfl⟩ := he
    have hsame : inQuotes name.toList = inQuotes name'.toList := hspells
    rw [hname', String.toList_inj.mp (inQuotes_inj hsame)]

/-- A line of an accepted text that sets a text has it between double quotes. -/
theorem exists_inQuotes (h : read text = .ok settings) (hline : line ∈ text.splitOn '\n')
    (hkey : key.IsText) (hsets : Sets line key value) :
    ∃ inner, value = inQuotes inner ∧ (key = .verbosity → '"' ∉ inner) := by
  obtain ⟨⟨reads, hreads, -⟩, -⟩ := read_eq_ok_iff.mp h
  have hall : ∀ l ∈ text.splitOn '\n', ∃ read, Reads l read :=
    ((List.forall₂_and_left _ _).mp (hreads.imp fun l read hread => ⟨⟨read, hread⟩, hread⟩)).1
  obtain ⟨read, hread⟩ := hall line hline
  cases read with
  | none => exact absurd hread hsets.not_isIdle
  | some e =>
    obtain ⟨v, hsets', hspells⟩ := hread
    obtain ⟨rfl, rfl⟩ := hsets'.unique hsets
    obtain ⟨t, ht, hverbosity⟩ := exists_text hkey
    rw [ht] at hspells
    exact ⟨t.toList, hspells, hverbosity⟩

/-- In an accepted text every line that sets a text has a value between two double quotes.  The
first quotation of the line is this text, with nothing but blanks and a comment behind it, exactly
if no double quote stands within it; within the word for a verbosity none does.  What is kept for a
key stands in the last line that sets it. -/
theorem read_quotations (h : read text = .ok settings) :
    (∀ line ∈ text.splitOn '\n', ∀ key value, key.IsText → Sets line key value →
      ∃ inner, value = inQuotes inner ∧ (key = .verbosity → '"' ∉ inner) ∧
        ∀ t, IsQuoted line t ↔ t = inner ∧ '"' ∉ inner) ∧
      ∀ key, (∀ e, settings.held? key = some e →
        ∃ value, Settles (text.splitOn '\n') key value ∧ e.content.Spells value) ∧
        ∀ value, Settles (text.splitOn '\n') key value →
          ∃ e, settings.held? key = some e ∧ e.content.Spells value := by
  refine ⟨fun line hline key value hkey hsets => ?_, fun key =>
    ⟨fun e he => exists_settles h he, fun value hsettles => exists_entry_of_settles h hsettles⟩⟩
  obtain ⟨inner, rfl, hverbosity⟩ := exists_inQuotes h hline hkey hsets
  exact ⟨inner, rfl, hverbosity, fun t => isQuoted_iff hsets⟩

theorem read_quotations_amy :
    read "username = \"zoé\"\nusername = \"amy # 2\" # \"late\"".toList =
        .ok { username := some "amy # 2" } ∧
      IsQuoted "username = \"amy # 2\" # \"late\"".toList "amy # 2".toList ∧
      Settles ("username = \"zoé\"\nusername = \"amy # 2\" # \"late\"".toList.splitOn '\n')
        .username (inQuotes "amy # 2".toList) := by
  have hread : read "username = \"zoé\"\nusername = \"amy # 2\" # \"late\"".toList =
      .ok { username := some "amy # 2" } := by
    decide
  have hsets : Sets "username = \"amy # 2\" # \"late\"".toList .username
      (inQuotes "amy # 2".toList) :=
    ⟨"username ".toList, " \"amy # 2\" ".toList, by decide, by decide, by decide, by decide⟩
  obtain ⟨hlines, hkeys⟩ := read_quotations hread
  obtain ⟨inner, hinner, -, hquoted⟩ :=
    hlines _ (by decide) .username _ (Or.inr (Or.inl rfl)) hsets
  obtain ⟨value, hsettles, hspells⟩ := (hkeys .username).1 (.username "amy # 2") rfl
  obtain rfl : value = inQuotes "amy # 2".toList := hspells
  refine ⟨hread, (hquoted _).mpr ⟨inQuotes_inj hinner, ?_⟩, hsettles⟩
  rw [← inQuotes_inj hinner]
  decide

/-- A name with two quotations is kept with the quotes between them. -/
theorem two_quotations_kept :
    read "username = \"alice\" \"bob\"".toList = .ok { username := some "alice\" \"bob" } ∧
      Sets "username = \"alice\" \"bob\"".toList .username "\"alice\" \"bob\"".toList := by
  refine ⟨by decide, "username ".toList, " \"alice\" \"bob\"".toList, ?_⟩
  decide

end FormFetch.Settings
