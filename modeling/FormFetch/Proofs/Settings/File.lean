import Mathlib.Data.List.Forall2
import Mathlib.Data.List.ReduceOption
import FormFetch.Proofs.Settings.Entries

/-!
# Settings files, written and read

A text of settings is read line by line, and what its lines bring is put together.

* `readLines_eq_ok_iff` and `read_eq_ok_iff`: the texts that are accepted, and what they are read
  as.
* `WritesAll` is how a text is written, and `exists_writesAll` says that all entries whose texts
  fit into a line can be written, in any order.
* `IsLoose` are the lines that are accepted and not written; `exists_fault_iff` says which line the
  error names.
* `read_written` is the result.
-/

namespace FormFetch.Settings

open FormFetch.Text

/-! ## Lines of a file -/

variable {settings settings' : Settings} {es : List Entry} {n : Nat} {lines : List (List Char)}

/-- The lines that are accepted one after the other. -/
theorem readLines_eq_ok_iff :
    readLines settings n lines = .ok settings' ↔
      ∃ reads, List.Forall₂ Reads lines reads ∧
        settings' = appliedAll settings reads.reduceOption := by
  induction lines generalizing settings n with
  | nil =>
    rw [readLines]
    constructor
    · intro h
      exact ⟨[], .nil, (Except.ok.inj h).symm⟩
    · rintro ⟨reads, hreads, rfl⟩
      cases hreads
      rfl
  | cons line lines ih =>
    have happlied : ∀ read reads, appliedAll settings (List.reduceOption (read :: reads)) =
        appliedAll (appliedAll settings read.toList) reads.reduceOption := by
      intro read reads
      cases read with
      | none => rfl
      | some e => rfl
    constructor
    · intro h
      rw [readLines] at h
      split at h
      · cases h
      · rename_i hline
        obtain ⟨read, hread, rfl⟩ := readLine_eq_ok_iff.mp hline
        obtain ⟨reads, hreads, rfl⟩ := ih.mp h
        exact ⟨read :: reads, .cons hread hreads, (happlied read reads).symm⟩
    · rintro ⟨reads, hreads, rfl⟩
      cases hreads with
      | @cons _ read _ reads hread hreads =>
        rw [readLines, readLine_eq_ok_iff.mpr ⟨read, hread, rfl⟩]
        exact ih.mpr ⟨reads, hreads, happlied read reads⟩

/-- A line that is refused is one of those that are read. -/
theorem line_of_readLines {fault : Fault} (h : readLines settings n lines = .error fault) :
    ∃ m, n ≤ m ∧ fault.line? = some m := by
  induction lines generalizing settings n with
  | nil => cases h
  | cons line lines ih =>
    rw [readLines] at h
    split at h
    · rename_i hline
      obtain rfl := Except.error.inj h
      exact ⟨n, Nat.le_refl n, line_of_readLine hline⟩
    · obtain ⟨m, hm, hfault⟩ := ih h
      exact ⟨m, by omega, hfault⟩

/-- Behind lines that are accepted the reading goes on. -/
theorem readLines_append (h : readLines settings n lines = .ok settings')
    (after : List (List Char)) :
    readLines settings n (lines ++ after) = readLines settings' (n + lines.length) after := by
  induction lines generalizing settings n with
  | nil =>
    obtain rfl := Except.ok.inj h
    rfl
  | cons line lines ih =>
    rw [readLines] at h
    split at h
    · cases h
    · rename_i hline
      rw [List.cons_append, readLines, hline]
      exact (ih h).trans (by rw [List.length_cons, Nat.add_right_comm, Nat.add_assoc])

variable {text : List Char}

/-- The texts that are accepted. -/
theorem read_eq_ok_iff :
    read text = .ok settings ↔
      (∃ reads, List.Forall₂ Reads (text.splitOn '\n') reads ∧
        settings = appliedAll {} reads.reduceOption) ∧ settings.InRange := by
  rw [← readLines_eq_ok_iff (n := 1), ← validate_eq_ok_iff, read]
  cases hlines : readLines {} 1 (text.splitOn '\n') with
  | error fault => simp
  | ok settings' =>
    cases hvalid : settings'.validate with
    | error fault =>
      simp only [hvalid, reduceCtorEq, Except.ok.injEq, false_iff, not_and]
      rintro rfl
      rw [hvalid]
      exact fun h => by cases h
    | ok _ =>
      simp only [hvalid, Except.ok.injEq]
      constructor
      · rintro rfl
        exact ⟨rfl, hvalid⟩
      · rintro ⟨h, -⟩
        exact h

/-! ## Written files -/

/-- How a text of settings is written: a line feed ends each of its lines but the last one, and
there may be a carriage return in front of it. -/
inductive WritesAll : List Char → List Entry → Prop
  | last {line : List Char} {read : Option Entry} (hline : '\n' ∉ line)
      (hwrites : Writes line read) : WritesAll line read.toList
  | line {line ending rest : List Char} {read : Option Entry} {es : List Entry}
      (hline : '\n' ∉ line) (hwrites : Writes line read)
      (hending : ending = [] ∨ ending = ['\r']) (hrest : WritesAll rest es) :
      WritesAll (line ++ ending ++ '\n' :: rest) (read.toList ++ es)

theorem IsMargin.append_ending {margin ending : List Char} (h : IsMargin margin)
    (hending : ending = [] ∨ ending = ['\r']) : IsMargin (margin ++ ending) := by
  obtain ⟨blanks, cut, rfl, hblanks, hcut⟩ := h
  rcases hending with rfl | rfl
  · exact ⟨blanks, cut, List.append_nil _, hblanks, hcut⟩
  · rcases hcut with rfl | ⟨text, rfl⟩
    · refine ⟨blanks ++ ['\r'], [], by simp, fun c hc => ?_, Or.inl rfl⟩
      rcases List.mem_append.mp hc with hc | hc
      · exact hblanks c hc
      · rw [List.mem_singleton.mp hc]
        decide
    · exact ⟨blanks, '#' :: (text ++ ['\r']), by simp, hblanks, Or.inr ⟨_, rfl⟩⟩

/-- A carriage return at the end of a line belongs to its margin. -/
theorem Writes.append_ending {line ending : List Char} {read : Option Entry}
    (h : Writes line read) (hending : ending = [] ∨ ending = ['\r']) :
    Writes (line ++ ending) read := by
  cases h with
  | idle hmargin => exact .idle (hmargin.append_ending hending)
  | entry e hindent hbefore hafter hunquoted hvalue hmargin =>
    have hentry := Writes.entry e hindent hbefore hafter hunquoted hvalue
      (hmargin.append_ending hending)
    simpa using hentry

/-- The lines of a written text. -/
theorem WritesAll.exists_reads (h : WritesAll text es) :
    ∃ reads, List.Forall₂ Writes (text.splitOn '\n') reads ∧ reads.reduceOption = es := by
  induction h with
  | @last line read hline hwrites =>
    refine ⟨[read], ?_, ?_⟩
    · rw [List.splitOn_eq_singleton hline]
      exact .cons hwrites .nil
    · cases read with
      | none => rfl
      | some e => rfl
  | @line line ending rest read es hline hwrites hending _ ih =>
    obtain ⟨reads, hreads, rfl⟩ := ih
    have hfree : '\n' ∉ line ++ ending := by
      rcases hending with rfl | rfl
      · simpa using hline
      · simpa using hline
    refine ⟨read :: reads, ?_, ?_⟩
    · rw [List.splitOn_append_cons_self_of_not_mem hfree]
      exact .cons (hwrites.append_ending hending) hreads
    · cases read with
      | none => rfl
      | some e => rfl

/-- What is written is read. -/
theorem read_of_writesAll (h : WritesAll text es)
    (hlast : ∀ key, lastFor? key es = settings.held? key) (hrange : settings.InRange) :
    read text = .ok settings := by
  obtain ⟨reads, hwrites, hreads⟩ := h.exists_reads
  have hlines : List.Forall₂ Reads (text.splitOn '\n') reads :=
    hwrites.imp fun _ _ hline => (writes_iff.mp hline).1
  refine read_eq_ok_iff.mpr ⟨⟨reads, hlines, ?_⟩, hrange⟩
  rw [hreads, appliedAll_eq hlast]

/-- What fits into one line: a text without a double quote and a line feed, and a number of 64
bits. -/
def Content.Plain : Content → Prop
  | .text t => '"' ∉ t.toList ∧ '\n' ∉ t.toList
  | .whole n => n ≤ Number.max64

/-- No text of the settings has a double quote or a line feed in it. -/
def Plain (settings : Settings) : Prop :=
  ∀ t, settings.serverUrl = some t ∨ settings.username = some t →
    '"' ∉ t.toList ∧ '\n' ∉ t.toList

theorem plain_of_mem_entries (hplain : settings.Plain) (hrange : settings.InRange) {e : Entry}
    (he : e ∈ settings.entries) : e.content.Plain := by
  have hmax : 3600 ≤ Number.max64 := by decide
  simp only [entries, List.mem_append, List.mem_map, Option.mem_toList] at he
  rcases he with (((⟨url, hurl, rfl⟩ | ⟨name, hname, rfl⟩) | ⟨n, hn, rfl⟩) | ⟨n, hn, rfl⟩) |
    ⟨v, -, rfl⟩
  · exact hplain url (Or.inl hurl)
  · exact hplain name (Or.inr hname)
  · exact Nat.le_trans (hrange.connectTimeout n hn).2 hmax
  · exact Nat.le_trans (hrange.requestTimeout n hn).2 hmax
  · cases v <;> exact ⟨by simp [word], by simp [word]⟩

/-- An entry that fits into a line has one. -/
theorem exists_writes {e : Entry} (h : e.content.Plain) :
    ∃ line, '\n' ∉ line ∧ Writes line (some e) := by
  have hbreak : isBlank '\n' = true := by decide
  have hvalue : ∃ value, e.content.Spells value ∧ '\n' ∉ value := by
    cases hcontent : e.content with
    | text t =>
      rw [hcontent] at h
      exact ⟨_, rfl, by simpa [inQuotes] using h.2⟩
    | whole n =>
      rw [hcontent] at h
      obtain ⟨m, hm⟩ := exists_numeral h
      refine ⟨m.chars, ⟨m, rfl, hm⟩, fun hmem => ?_⟩
      rw [(isPlain_of_mem_chars hmem).1] at hbreak
      cases hbreak
  have hunquoted : e.content.Unquoted := by
    cases hcontent : e.content with
    | text t =>
      rw [hcontent] at h
      exact h.1
    | whole n => trivial
  obtain ⟨value, hspells, hfree⟩ := hvalue
  have hname : '\n' ∉ e.key.name.toList := by
    intro hmem
    rw [(isPlain_of_mem_name hmem).1] at hbreak
    cases hbreak
  refine ⟨_, ?_, @Writes.entry [] [] [] value [] e (by simp) (by simp) (by simp) hunquoted hspells
    isMargin_nil⟩
  simp [hname, hfree]

/-- Entries that fit into lines can be written in any order. -/
theorem exists_writesAll (h : ∀ e ∈ es, e.content.Plain) : ∃ text, WritesAll text es := by
  induction es with
  | nil =>
    exact ⟨[], .last (by simp) (.idle isMargin_nil)⟩
  | cons e es ih =>
    obtain ⟨he, hes⟩ := List.forall_mem_cons.mp h
    obtain ⟨line, hline, hwrites⟩ := exists_writes he
    obtain ⟨rest, hrest⟩ := ih hes
    exact ⟨_, .line hline hwrites (Or.inl rfl) hrest⟩

/-! ## Lines that are not written -/

/-- A line whose text has a double quote within it. -/
def IsLoose (line : List Char) : Prop :=
  ∃ key inner, (key = .serverUrl ∨ key = .username) ∧ Sets line key (inQuotes inner) ∧ '"' ∈ inner

variable {line : List Char}

theorem IsLoose.exists_reads (h : IsLoose line) : ∃ read, Reads line read := by
  obtain ⟨key, inner, hkey, hsets, -⟩ := h
  rcases hkey with rfl | rfl
  · exact ⟨some (.serverUrl (String.ofList inner)), _, hsets, spells_ofList inner⟩
  · exact ⟨some (.username (String.ofList inner)), _, hsets, spells_ofList inner⟩

theorem IsLoose.not_writes (h : IsLoose line) : ¬∃ read, Writes line read := by
  rintro ⟨read, hwrites⟩
  obtain ⟨key, inner, hkey, hsets, hquote⟩ := h
  obtain ⟨hread, hunquoted⟩ := writes_iff.mp hwrites
  cases read with
  | none => exact hsets.not_isIdle hread
  | some e =>
    obtain ⟨value, hsets', hspells⟩ := hread
    obtain ⟨rfl, rfl⟩ := hsets'.unique hsets
    obtain ⟨t, ht, -⟩ := exists_text (hkey.imp_right Or.inl)
    have hfree := hunquoted e rfl
    rw [ht] at hspells hfree
    rw [inQuotes_inj hspells] at hquote
    exact hfree hquote

/-- The lines that are accepted but not written. -/
theorem isLoose_of_reads {read : Option Entry} (hread : Reads line read)
    (hwrites : ¬∃ read, Writes line read) : IsLoose line := by
  have hquoted : ∃ e, read = some e ∧ ¬e.content.Unquoted := by
    by_contra hnone
    refine hwrites ⟨read, writes_iff.mpr ⟨hread, fun e he => ?_⟩⟩
    by_contra hquote
    exact hnone ⟨e, he, hquote⟩
  obtain ⟨e, rfl, hquote⟩ := hquoted
  obtain ⟨value, hsets, hspells⟩ := hread
  cases e with
  | serverUrl url =>
    obtain rfl : value = inQuotes url.toList := hspells
    exact ⟨.serverUrl, url.toList, Or.inl rfl, hsets, not_not.mp hquote⟩
  | username name =>
    obtain rfl : value = inQuotes name.toList := hspells
    exact ⟨.username, name.toList, Or.inr rfl, hsets, not_not.mp hquote⟩
  | connectTimeout n => exact absurd trivial hquote
  | requestTimeout n => exact absurd trivial hquote
  | verbosity v => cases v <;> exact absurd (by simp [Entry.content, Content.Unquoted, word]) hquote

theorem exists_readLines (h : ∀ line ∈ lines, (∃ read, Writes line read) ∨ IsLoose line) :
    ∃ settings', readLines settings n lines = .ok settings' := by
  have hreads : ∃ reads, List.Forall₂ Reads lines reads := by
    induction lines with
    | nil => exact ⟨[], .nil⟩
    | cons line lines ih =>
      obtain ⟨hline, hrest⟩ := List.forall_mem_cons.mp h
      obtain ⟨reads, hreads⟩ := ih hrest
      rcases hline with ⟨read, hwrites⟩ | hloose
      · exact ⟨read :: reads, .cons (writes_iff.mp hwrites).1 hreads⟩
      · obtain ⟨read, hread⟩ := hloose.exists_reads
        exact ⟨read :: reads, .cons hread hreads⟩
  obtain ⟨reads, hreads⟩ := hreads
  exact ⟨_, readLines_eq_ok_iff.mpr ⟨reads, hreads, rfl⟩⟩

/-- A fault that names a line comes from the lines. -/
theorem read_eq_error_iff {fault : Fault} {m : Nat} (hfault : fault.line? = some m) :
    read text = .error fault ↔ readLines {} 1 (text.splitOn '\n') = .error fault := by
  rw [read]
  cases hlines : readLines {} 1 (text.splitOn '\n') with
  | error fault' => rfl
  | ok settings' =>
    simp only [reduceCtorEq, iff_false]
    intro h
    split at h
    · rename_i hvalid
      obtain rfl := Except.error.inj h
      rw [line_of_validate hvalid] at hfault
      cases hfault
    · cases h

/-- Behind written and loose lines, a line that is not written is named by the error, unless it is
loose itself. -/
theorem exists_fault_iff {before after : List (List Char)}
    (hlines : text.splitOn '\n' = before ++ line :: after)
    (hbefore : ∀ l ∈ before, (∃ read, Writes l read) ∨ IsLoose l)
    (hline : ¬∃ read, Writes line read) :
    (∃ fault, read text = .error fault ∧ fault.line? = some (before.length + 1)) ↔
      ¬IsLoose line := by
  obtain ⟨settings, hsettings⟩ : ∃ settings, readLines {} 1 before = .ok settings :=
    exists_readLines hbefore
  have hread : readLines {} 1 (text.splitOn '\n') =
      readLines settings (before.length + 1) (line :: after) := by
    rw [hlines, readLines_append hsettings, Nat.add_comm]
  -- An accepted line leaves the error to the lines behind it, which have greater numbers, or to the
  -- ranges, which have none.
  cases hstep : readLine settings (before.length + 1) line with
  | error fault =>
    have hnumber := line_of_readLine hstep
    have hfault : read text = .error fault := by
      rw [read_eq_error_iff hnumber, hread, readLines, hstep]
    have hloose : ¬IsLoose line := by
      intro h
      obtain ⟨read, hread⟩ := h.exists_reads
      rw [readLine_eq_ok_iff.mpr ⟨read, hread, rfl⟩] at hstep
      cases hstep
    exact iff_of_true ⟨fault, hfault, hnumber⟩ hloose
  | ok settings' =>
    obtain ⟨read, hreads, -⟩ := readLine_eq_ok_iff.mp hstep
    have hnone : ¬∃ fault, Settings.read text = .error fault ∧
        fault.line? = some (before.length + 1) := by
      rintro ⟨fault, hfault, hnumber⟩
      rw [read_eq_error_iff hnumber, hread, readLines, hstep] at hfault
      obtain ⟨m, hm, hnumber'⟩ := line_of_readLines hfault
      have hsame := Option.some.inj (hnumber.symm.trans hnumber')
      omega
    exact iff_of_false hnone (not_not.mpr (isLoose_of_reads hreads hline))

/-! ## Results -/

/-- Settings whose texts fit into lines, and whose values are in range, can be written with their
entries in any order, and every text that is written so is read as these settings; so is one in
which the entries that come last for their keys are those of the settings.  What is read is in
range.  The first line that is neither idle nor an entry is the one that the error names, exactly
if it is not loose; loose lines in front of it do no harm. -/
theorem read_written (settings : Settings) (text : List Char) :
    (settings.InRange → ∀ es,
      (settings.Plain → es.Perm settings.entries → ∃ text, WritesAll text es) ∧
        (es.Perm settings.entries ∨ (∀ key, lastFor? key es = settings.held? key) →
          WritesAll text es → read text = .ok settings)) ∧
      (read text = .ok settings → settings.InRange) ∧
      ∀ before line after, text.splitOn '\n' = before ++ line :: after →
        (∀ l ∈ before, (∃ read, Writes l read) ∨ IsLoose l) → (¬∃ read, Writes line read) →
          ((∃ fault front back, read text = .error fault ∧
            fault.line? = some (before.length + 1) ∧
            fault.messages.head? = some (front ++ s!" on line {before.length + 1}" ++ back)) ↔
            ¬IsLoose line) := by
  refine ⟨fun hrange es => ⟨fun hplain hperm => ?_, fun hes h => ?_⟩,
    fun h => (read_eq_ok_iff.mp h).2, fun before line after hlines hbefore hline => ?_⟩
  · exact exists_writesAll fun e he => plain_of_mem_entries hplain hrange (hperm.mem_iff.mp he)
  · refine read_of_writesAll h ?_ hrange
    rcases hes with hperm | hlast
    · exact lastFor?_of_perm hperm
    · exact hlast
  · rw [← exists_fault_iff hlines hbefore hline]
    constructor
    · rintro ⟨fault, -, -, hfault, hnumber, -⟩
      exact ⟨fault, hfault, hnumber⟩
    · rintro ⟨fault, hfault, hnumber⟩
      obtain ⟨front, back, hmessage⟩ := exists_message_of_line? hnumber
      exact ⟨fault, front, back, hfault, hnumber, hmessage⟩

/-- A name that is given twice, with a comment and both line ends; and a name without quotes, which
is refused by its line. -/
theorem read_written_district :
    read ("\tusername=\"zoé\" # \"old\"\r\n" ++
        "request_timeout_secs = +090\nusername = \"#2\"").toList =
      .ok { username := some "#2", requestTimeout := some 90 } ∧
    ∃ fault front back, read "\nusername = zoé\n".toList = .error fault ∧
      fault.line? = some 2 ∧ fault.messages.head? = some (front ++ s!" on line {2}" ++ back) := by
  constructor
  · have hnil : ∀ c ∈ ([] : List Char), isBlank c = true := by simp
    have htab : ∀ c ∈ ['\t'], isBlank c = true := List.all_eq_true.mp (by decide)
    have hspace : ∀ c ∈ [' '], isBlank c = true := List.all_eq_true.mp (by decide)
    have hfirst : Writes "\tusername=\"zoé\" # \"old\"".toList (some (.username "zoé")) :=
      @Writes.entry ['\t'] [] [] _ " # \"old\"".toList (.username "zoé") htab hnil hnil (by decide)
        rfl ⟨[' '], _, rfl, hspace, Or.inr ⟨_, rfl⟩⟩
    have hwait : Writes "request_timeout_secs = +090".toList (some (.requestTimeout 90)) :=
      @Writes.entry [] [' '] [' '] "+090".toList [] (.requestTimeout 90) hnil hspace hspace trivial
        ⟨⟨['+'], [0, 9, 0], by decide, by decide, by decide⟩, by decide, by decide⟩ isMargin_nil
    have hlast : Writes "username = \"#2\"".toList (some (.username "#2")) :=
      @Writes.entry [] [' '] [' '] _ [] (.username "#2") hnil hspace hspace (by decide) rfl
        isMargin_nil
    have hall := WritesAll.line (by decide) hfirst (Or.inr rfl) <|
      .line (by decide) hwait (Or.inl rfl) <|
      .last (by decide) hlast
    have hrange : InRange { username := some "#2", requestTimeout := some 90 } :=
      ⟨by simp, by simp, by simp⟩
    have htext : ("\tusername=\"zoé\" # \"old\"\r\n" ++
        "request_timeout_secs = +090\nusername = \"#2\"").toList =
        "\tusername=\"zoé\" # \"old\"".toList ++ ['\r'] ++ '\n' ::
          ("request_timeout_secs = +090".toList ++ [] ++ '\n' :: "username = \"#2\"".toList) := by
      decide
    rw [htext]
    refine ((read_written _ _).1 hrange _).2 (Or.inr fun key => ?_) hall
    cases key <;> decide
  · have hrefused : readLine {} 2 "username = zoé".toList =
        .error (.badValue .username 2 .notQuoted) := by
      decide
    have hreads : ∀ read, ¬Reads "username = zoé".toList read := by
      intro read hread
      rw [readLine_eq_ok_iff.mpr ⟨read, hread, rfl⟩] at hrefused
      cases hrefused
    have hidle : Writes [] none := .idle isMargin_nil
    have hwrites : ¬∃ read, Writes "username = zoé".toList read :=
      fun ⟨read, h⟩ => hreads read (writes_iff.mp h).1
    have hloose : ¬IsLoose "username = zoé".toList := fun h => h.exists_reads.elim hreads
    have hbefore : ∀ l ∈ [[]], (∃ read, Writes l read) ∨ IsLoose l := by
      simpa using Or.inl ⟨_, hidle⟩
    exact ((read_written {} _).2.2 [[]] _ [[]] (by decide) hbefore hwrites).mpr hloose

/-- A name with two quotations is no entry, and the error names the line behind it. -/
theorem two_quotations_unnamed :
    (¬∃ read, Writes "username = \"alice\" \"bob\"".toList read) ∧
      read "username = \"alice\" \"bob\"\njunk".toList = .error (.noEquals 2) := by
  have hsets : Sets "username = \"alice\" \"bob\"".toList .username
      (inQuotes "alice\" \"bob".toList) :=
    ⟨"username ".toList, " \"alice\" \"bob\"".toList, by decide, by decide, by decide, by decide⟩
  exact ⟨IsLoose.not_writes ⟨.username, _, Or.inr rfl, hsets, by decide⟩, by decide⟩

end FormFetch.Settings
