import FormFetch.Proofs.Settings.Value
import FormFetch.Proofs.Text.Strip

/-!
# Lines of a settings file

A line is read by taking its comment away, parting the rest at the first equals sign and
trimming the parts.  Here the lines that are read are told by their characters.

* `withoutComment_append` and `exists_comment`: what stays of a line, and what goes.
* `Sets` says that a line has a key and a value; `readLine_cases` says what becomes of any
  line, and `readLine_eq_ok_iff` which lines are accepted.
* `Writes` is how a line is written, and `writes_iff` the result: the accepted lines are those
  that are written, but for texts with a double quote in them.
-/

namespace FormFetch.Settings

open FormFetch.Text

/-! ## Comments -/

/-- Characters that start no comment stay, if there is no double quote among them. -/
theorem withoutComment_append {quotedText : Bool} {front : List Char}
    (h : ∀ c ∈ front, c ≠ '"' ∧ (c = '#' → quotedText = true)) (rest : List Char) :
    withoutComment quotedText (front ++ rest) = front ++ withoutComment quotedText rest := by
  induction front with
  | nil => rfl
  | cons c front ih =>
    obtain ⟨⟨hquote, hmark⟩, hfront⟩ := List.forall_mem_cons.mp h
    have hnone : ¬(c = '#' ∧ (!quotedText) = true) := by
      rintro ⟨rfl, hopen⟩
      rw [hmark rfl] at hopen
      cases hopen
    rw [List.cons_append, withoutComment, if_neg hquote, if_neg hnone, ih hfront, List.cons_append]

/-- A comment at the end of a line, or none. -/
def IsComment (cut : List Char) : Prop :=
  cut = [] ∨ ∃ text, cut = '#' :: text

/-- What goes is a comment. -/
theorem exists_comment (quotedText : Bool) (line : List Char) :
    ∃ cut, line = withoutComment quotedText line ++ cut ∧ IsComment cut := by
  induction line generalizing quotedText with
  | nil => exact ⟨[], rfl, Or.inl rfl⟩
  | cons c rest ih =>
    rw [withoutComment]
    split
    · obtain ⟨cut, hrest, hcut⟩ := ih (!quotedText)
      exact ⟨cut, by rw [List.cons_append, ← hrest], hcut⟩
    · split
      · rename_i hmark
        obtain ⟨rfl, -⟩ := hmark
        exact ⟨'#' :: rest, rfl, Or.inr ⟨rest, rfl⟩⟩
      · obtain ⟨cut, hrest, hcut⟩ := ih quotedText
        exact ⟨cut, by rw [List.cons_append, ← hrest], hcut⟩

/-! ## Keys and values -/

/-- In front of the first equals sign of a line, when its comment is gone, stands the name of a
key, and behind it a value; there may be blanks around both. -/
def Sets (line : List Char) (key : Key) (value : List Char) : Prop :=
  ∃ front back, withoutComment false line = front ++ '=' :: back ∧ '=' ∉ front ∧
    trim front = key.name.toList ∧ trim back = value

theorem keyName_inj {key key' : Key} (h : key.name.toList = key'.name.toList) : key = key' := by
  have hname := congrArg Key.ofName? (String.toList_inj.mp h)
  rw [Key.ofName?_name, Key.ofName?_name] at hname
  exact Option.some.inj hname

/-- A line has one key and one value at most. -/
theorem Sets.unique {line : List Char} {key key' : Key} {value value' : List Char}
    (h : Sets line key value) (h' : Sets line key' value') : key' = key ∧ value' = value := by
  obtain ⟨front, back, hline, hfront, hkey, rfl⟩ := h
  obtain ⟨front', back', hline', hfront', hkey', rfl⟩ := h'
  obtain ⟨rfl, rfl⟩ := append_cons_inj hfront' hfront (hline'.symm.trans hline)
  exact ⟨keyName_inj (hkey'.symm.trans hkey), rfl⟩

/-- Without its comment there is nothing but blanks in a line. -/
def IsIdle (line : List Char) : Prop :=
  ∀ c ∈ withoutComment false line, isBlank c = true

theorem Sets.not_isIdle {line : List Char} {key : Key} {value : List Char}
    (h : Sets line key value) : ¬IsIdle line := by
  obtain ⟨front, back, hline, -⟩ := h
  intro hidle
  have hequals := hidle '=' (by rw [hline]; simp)
  cases hequals

variable {settings settings' : Settings} {n : Nat} {line : List Char}

theorem readLine_of_isIdle (h : IsIdle line) : readLine settings n line = .ok settings := by
  simp only [readLine, trim_eq_nil_iff.mpr h, List.isEmpty_nil, if_true]

theorem readLine_of_split {front back : List Char}
    (hline : withoutComment false line = front ++ '=' :: back) (hfront : '=' ∉ front) :
    readLine settings n line =
      (Key.ofName? (String.ofList (trim front))).elim
        (.error (.unknownKey (String.ofList (trim front)) n))
        fun key => put settings n key (trim back) := by
  -- The trimming of the whole line takes blanks from the outer ends of name and value only, and both
  -- are trimmed again.
  have hstart : '=' ∉ trimStart front := fun h => hfront ((List.dropWhile_sublist _).mem h)
  have hname : trim (trimStart front) = trim front := by
    rw [trim, trimStart_idem, ← trim]
  have hvalue : trim (trimEnd back) = trim back := by
    obtain ⟨tail, hback, htail⟩ := exists_append_dropEndWhile isBlank back
    have hpadded := trim_append_blanks (trimEnd back) (List.all_eq_true.mp htail)
    rw [← hpadded, trimEnd, ← hback]
  have hempty : (trimStart front ++ '=' :: trimEnd back).isEmpty = false := by
    simp
  have hequals : isBlank '=' = false := by decide
  simp only [readLine, hline, trim_append_cons _ _ hequals, hempty, Bool.false_eq_true, if_false,
    dropWhile_ne_append hstart, takeWhile_ne_append hstart, hname, hvalue]
  cases Key.ofName? (String.ofList (trim front)) with
  | none => rfl
  | some key => rfl

theorem readLine_of_sets {key : Key} {value : List Char} (h : Sets line key value) :
    readLine settings n line = put settings n key value := by
  obtain ⟨front, back, hline, hfront, hkey, rfl⟩ := h
  rw [readLine_of_split hline hfront, hkey, String.ofList_toList, Key.ofName?_name]
  rfl

/-- What becomes of a line: it is idle, it has a key and a value, or it is refused by its
number. -/
theorem readLine_cases (settings : Settings) (n : Nat) (line : List Char) :
    IsIdle line ∨ (∃ key value, Sets line key value) ∨
      ∃ fault, readLine settings n line = .error fault ∧ fault.line? = some n := by
  rcases dropWhile_ne_cases '=' (withoutComment false line) with
    ⟨hnone, -⟩ | ⟨front, back, hline, hfront, -, -⟩
  · by_cases hidle : IsIdle line
    · exact Or.inl hidle
    · have htrim : (trim (withoutComment false line)).isEmpty = false := by
        rw [List.isEmpty_eq_false_iff]
        exact fun h => hidle (trim_eq_nil_iff.mp h)
      have hsublist : '=' ∉ trim (withoutComment false line) := fun h =>
        hnone ((List.dropWhile_sublist _).mem (mem_of_mem_dropEndWhile h))
      refine Or.inr (Or.inr ⟨.noEquals n, ?_, rfl⟩)
      simp only [readLine, htrim, Bool.false_eq_true, if_false, dropWhile_ne_of_notMem hsublist]
  · cases hkey : Key.ofName? (String.ofList (trim front)) with
    | none =>
      refine Or.inr (Or.inr ⟨.unknownKey (String.ofList (trim front)) n, ?_, rfl⟩)
      rw [readLine_of_split hline hfront, hkey]
      rfl
    | some key =>
      refine Or.inr (Or.inl ⟨key, trim back, front, back, hline, hfront, ?_, rfl⟩)
      rw [← eq_name_of_ofName? hkey, String.toList_ofList]

/-! ## Accepted lines -/

/-- What a line is read as: nothing, or an entry. -/
def Reads (line : List Char) : Option Entry → Prop
  | none => IsIdle line
  | some e => ∃ value, Sets line e.key value ∧ e.content.Spells value

/-- The settings with an entry, if there is one. -/
def appliedAll (settings : Settings) (entries : List Entry) : Settings :=
  entries.foldl Entry.applied settings

/-- A line is accepted exactly if it is read as nothing or as an entry. -/
theorem readLine_eq_ok_iff :
    readLine settings n line = .ok settings' ↔
      ∃ read, Reads line read ∧ settings' = appliedAll settings read.toList := by
  constructor
  · intro h
    rcases readLine_cases settings n line with hidle | ⟨key, value, hsets⟩ | ⟨fault, hfault, -⟩
    · rw [readLine_of_isIdle hidle] at h
      exact ⟨none, hidle, (Except.ok.inj h).symm⟩
    · rw [readLine_of_sets hsets] at h
      obtain ⟨e, rfl, hspells, hsettings⟩ := put_eq_ok_iff.mp h
      exact ⟨some e, ⟨value, hsets, hspells⟩, hsettings⟩
    · rw [hfault] at h
      cases h
  · rintro ⟨read, hread, rfl⟩
    cases read with
    | none => exact readLine_of_isIdle hread
    | some e =>
      obtain ⟨value, hsets, hspells⟩ := hread
      rw [readLine_of_sets hsets]
      exact put_eq_ok_iff.mpr ⟨e, rfl, hspells, rfl⟩

/-- A line that is refused is named. -/
theorem line_of_readLine {fault : Fault} (h : readLine settings n line = .error fault) :
    fault.line? = some n := by
  rcases readLine_cases settings n line with hidle | ⟨key, value, hsets⟩ | ⟨fault', hfault, hline⟩
  · rw [readLine_of_isIdle hidle] at h
    cases h
  · rw [readLine_of_sets hsets] at h
    exact line_of_put h
  · rw [hfault] at h
    obtain rfl := Except.error.inj h
    exact hline

/-! ## Written lines -/

/-- The end of a line: blanks, and behind them a comment or nothing. -/
def IsMargin (cs : List Char) : Prop :=
  ∃ blanks cut, cs = blanks ++ cut ∧ (∀ c ∈ blanks, isBlank c = true) ∧ IsComment cut

theorem isMargin_nil : IsMargin [] :=
  ⟨[], [], rfl, by simp, Or.inl rfl⟩

/-- How a line is written: it is empty but for blanks and a comment, or it has an entry, with
blanks where one likes and perhaps a comment at the end. -/
inductive Writes : List Char → Option Entry → Prop
  | idle {margin : List Char} (hmargin : IsMargin margin) : Writes margin none
  | entry {indent before after value margin : List Char} (e : Entry)
      (hindent : ∀ c ∈ indent, isBlank c = true) (hbefore : ∀ c ∈ before, isBlank c = true)
      (hafter : ∀ c ∈ after, isBlank c = true) (hunquoted : e.content.Unquoted)
      (hvalue : e.content.Spells value) (hmargin : IsMargin margin) :
      Writes (indent ++ e.key.name.toList ++ before ++ '=' :: (after ++ value ++ margin)) (some e)

/-- A character that is neither a blank nor a mark of the format. -/
def IsPlain (c : Char) : Prop :=
  isBlank c = false ∧ c ≠ '"' ∧ c ≠ '#' ∧ c ≠ '='

instance (c : Char) : Decidable (IsPlain c) :=
  inferInstanceAs (Decidable (_ ∧ _))

theorem isPlain_digitChar : ∀ d < 10, IsPlain (Nat.digitChar d) := by
  decide

theorem isPlain_of_mem_name {key : Key} {c : Char} (h : c ∈ key.name.toList) : IsPlain c := by
  have hall : key.name.toList.all (fun c => decide (IsPlain c)) = true := by
    cases key <;> decide
  exact of_decide_eq_true (List.all_eq_true.mp hall c h)

theorem isPlain_of_mem_chars {m : Numeral} {c : Char} (h : c ∈ m.chars) : IsPlain c := by
  rcases List.mem_append.mp h with hsign | hdigit
  · rcases m.sign_cases with hnone | hplus | ⟨hminus, -⟩
    · rw [hnone] at hsign
      cases hsign
    · rw [hplus, List.mem_singleton] at hsign
      subst hsign
      decide
    · rw [hminus, List.mem_singleton] at hsign
      subst hsign
      decide
  · obtain ⟨d, -, rfl⟩ := List.mem_map.mp hdigit
    exact isPlain_digitChar d d.isLt

theorem ne_of_isBlank {c : Char} (h : isBlank c = true) : c ≠ '"' ∧ c ≠ '#' ∧ c ≠ '=' := by
  refine ⟨?_, ?_, ?_⟩
  · rintro rfl
    cases h
  · rintro rfl
    cases h
  · rintro rfl
    cases h

theorem edged_value {content : Content} {value : List Char} (h : content.Spells value) :
    Edged isBlank value := by
  cases content with
  | text t =>
    obtain rfl : value = inQuotes t.toList := h
    refine ⟨fun c hc => ?_, fun c hc => ?_⟩
    · obtain rfl := Option.some.inj hc
      decide
    · rw [inQuotes, ← List.cons_append, List.getLast?_concat] at hc
      obtain rfl := Option.some.inj hc
      decide
  | whole n =>
    obtain ⟨m, rfl, -⟩ := h
    exact edged_of_forall fun c hc => (isPlain_of_mem_chars hc).1

theorem withoutComment_plain {front : List Char}
    (h : ∀ c ∈ front, c ≠ '"' ∧ c ≠ '#') (rest : List Char) :
    withoutComment false (front ++ rest) = front ++ withoutComment false rest :=
  withoutComment_append (fun c hc => ⟨(h c hc).1, fun hmark => absurd hmark (h c hc).2⟩) rest

/-- A value without double quotes within it stays. -/
theorem withoutComment_value {content : Content} {value : List Char} (h : content.Spells value)
    (hunquoted : content.Unquoted) (rest : List Char) :
    withoutComment false (value ++ rest) = value ++ withoutComment false rest := by
  cases content with
  | text t =>
    obtain rfl : value = inQuotes t.toList := h
    have hinside : ∀ c ∈ t.toList, c ≠ '"' ∧ (c = '#' → true = true) := fun c hc =>
      ⟨fun hquote => hunquoted (hquote ▸ hc), fun _ => rfl⟩
    have hstep := withoutComment_append hinside ('"' :: rest)
    simp only [inQuotes, List.cons_append, List.append_assoc, List.nil_append, withoutComment,
      if_true, Bool.not_false, hstep, Bool.not_true]
  | whole n =>
    obtain ⟨m, rfl, -⟩ := h
    exact withoutComment_plain (fun c hc =>
      ⟨(isPlain_of_mem_chars hc).2.1, (isPlain_of_mem_chars hc).2.2.1⟩) rest

theorem exists_blanks_of_isMargin {margin : List Char} (h : IsMargin margin) :
    ∃ blanks, withoutComment false margin = blanks ∧ ∀ c ∈ blanks, isBlank c = true := by
  obtain ⟨blanks, cut, rfl, hblanks, hcut⟩ := h
  have hplain : ∀ c ∈ blanks, c ≠ '"' ∧ c ≠ '#' := fun c hc =>
    ⟨(ne_of_isBlank (hblanks c hc)).1, (ne_of_isBlank (hblanks c hc)).2.1⟩
  have hgone : withoutComment false cut = [] := by
    rcases hcut with rfl | ⟨text, rfl⟩
    · rfl
    · rfl
  refine ⟨blanks, ?_, hblanks⟩
  rw [withoutComment_plain hplain, hgone, List.append_nil]

theorem ne_of_mem_name (key : Key) {indent before : List Char}
    (hindent : ∀ c ∈ indent, isBlank c = true) (hbefore : ∀ c ∈ before, isBlank c = true) :
    ∀ c ∈ indent ++ key.name.toList ++ before, c ≠ '"' ∧ c ≠ '#' ∧ c ≠ '=' := by
  intro c hc
  rcases List.mem_append.mp hc with hc | hc
  · rcases List.mem_append.mp hc with hc | hc
    · exact ne_of_isBlank (hindent c hc)
    · exact (isPlain_of_mem_name hc).2
  · exact ne_of_isBlank (hbefore c hc)

/-- In front of a value there is neither a double quote nor a comment. -/
theorem ne_of_mem_front (key : Key) {indent before after : List Char}
    (hindent : ∀ c ∈ indent, isBlank c = true) (hbefore : ∀ c ∈ before, isBlank c = true)
    (hafter : ∀ c ∈ after, isBlank c = true) :
    ∀ c ∈ indent ++ key.name.toList ++ before ++ '=' :: after, c ≠ '"' ∧ c ≠ '#' := by
  intro c hc
  rcases List.mem_append.mp hc with hc | hc
  · have hname := ne_of_mem_name _ hindent hbefore c hc
    exact ⟨hname.1, hname.2.1⟩
  · rcases List.mem_cons.mp hc with rfl | hc
    · decide
    · exact ⟨(ne_of_isBlank (hafter c hc)).1, (ne_of_isBlank (hafter c hc)).2.1⟩

theorem sets_of_written {indent before after value margin : List Char} {e : Entry}
    (hindent : ∀ c ∈ indent, isBlank c = true) (hbefore : ∀ c ∈ before, isBlank c = true)
    (hafter : ∀ c ∈ after, isBlank c = true) (hunquoted : e.content.Unquoted)
    (hvalue : e.content.Spells value) (hmargin : IsMargin margin) :
    Sets (indent ++ e.key.name.toList ++ before ++ '=' :: (after ++ value ++ margin)) e.key
      value := by
  obtain ⟨blanks, hblanks, hblank⟩ := exists_blanks_of_isMargin hmargin
  have hname : Edged isBlank e.key.name.toList :=
    edged_of_forall fun c hc => (isPlain_of_mem_name hc).1
  refine ⟨indent ++ e.key.name.toList ++ before, after ++ (value ++ blanks), ?_,
    fun h => (ne_of_mem_name _ hindent hbefore '=' h).2.2 rfl, ?_,
    trim_append hafter (edged_value hvalue) hblank⟩
  · have hfront := ne_of_mem_front e.key hindent hbefore hafter
    have hkept := withoutComment_plain hfront (value ++ margin)
    rw [withoutComment_value hvalue hunquoted, hblanks] at hkept
    simpa using hkept
  · rw [List.append_assoc]
    exact trim_append hindent hname hbefore

/-- What stands around the value of a line. -/
theorem Sets.exists_line {key : Key} {value : List Char} (h : Sets line key value) :
    ∃ front blanks cut, line = front ++ value ++ blanks ++ cut ∧
      withoutComment false line = front ++ value ++ blanks ∧
      (∀ c ∈ front, c ≠ '"' ∧ c ≠ '#') ∧ (∀ c ∈ blanks, isBlank c = true) ∧
      IsComment cut := by
  obtain ⟨cut, hline, hcut⟩ := exists_comment false line
  obtain ⟨front, back, hkept, -, hname, hvalue⟩ := h
  obtain ⟨indent, before, hfront, hindent, -, hbefore⟩ := exists_trim front
  obtain ⟨after, blanks, hback, hafter, -, hblanks⟩ := exists_trim back
  rw [hname] at hfront
  rw [hvalue] at hback
  have hwhole : withoutComment false line =
      indent ++ key.name.toList ++ before ++ '=' :: after ++ value ++ blanks := by
    rw [hkept, hfront, hback]
    simp
  exact ⟨_, blanks, cut, hwhole ▸ hline, hwhole, ne_of_mem_front key hindent hbefore hafter,
    hblanks, hcut⟩

/-- The written lines are those that are read, but for texts with a double quote in them. -/
theorem writes_iff {read : Option Entry} :
    Writes line read ↔ Reads line read ∧ ∀ e ∈ read, e.content.Unquoted := by
  constructor
  · intro h
    cases h with
    | idle hmargin =>
      obtain ⟨blanks, hline, hblanks⟩ := exists_blanks_of_isMargin hmargin
      refine ⟨?_, by simp⟩
      rw [Reads, IsIdle, hline]
      exact hblanks
    | entry e hindent hbefore hafter hunquoted hvalue hmargin =>
      exact ⟨⟨_, sets_of_written hindent hbefore hafter hunquoted hvalue hmargin, hvalue⟩,
        fun e' he' => Option.some.inj he' ▸ hunquoted⟩
  · rintro ⟨hread, hunquoted⟩
    obtain ⟨cut, hline, hcut⟩ := exists_comment false line
    cases read with
    | none => exact Writes.idle ⟨_, cut, hline, hread, hcut⟩
    | some e =>
      obtain ⟨value, ⟨front, back, hkept, -, hname, hvalue⟩, hspells⟩ := hread
      obtain ⟨indent, before, hfront, hindent, -, hbefore⟩ := exists_trim front
      obtain ⟨after, blanks, hback, hafter, -, hblanks⟩ := exists_trim back
      rw [hname] at hfront
      rw [hvalue] at hback
      have hwritten := Writes.entry e hindent hbefore hafter (hunquoted e rfl) hspells
        ⟨blanks, cut, rfl, hblanks, hcut⟩
      rw [hline, hkept, hfront, hback]
      simpa using hwritten

end FormFetch.Settings
