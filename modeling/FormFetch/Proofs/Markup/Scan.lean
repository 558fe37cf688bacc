import FormFetch.Markup.Event
import FormFetch.Proofs.Markup.Attribute

/-!
# Pieces of markup are read back

Each piece that a document is written with is one event, whatever follows it.

* `Through` are texts that a scan for the end of a tag passes, and `untilMark_between` is the
  scan for the end of a comment, an instruction or a section.
* `next_comment`, `next_instruction`, `next_declaration`, `next_verbatim`, `next_start`,
  `next_empty` and `next_close` read one piece behind its `<`.
* `Reads` is a part of the scan of a document.  `reads_markup` and `reads_text` are its
  steps, and `Reads.trans` joins them.
-/

namespace FormFetch.Markup.Event

open FormFetch.Text
open FormFetch.Markup.Tag (isSpace isName isNameChar)
open FormFetch.Markup.Reference (escape)

/-! ## The end of a tag -/

/-- A text that a scan for the end of a tag passes, with no quote open behind it. -/
def Through (cs : List Char) : Prop :=
  ∀ rest, untilTagEnd none (cs ++ rest) =
    (untilTagEnd none rest).map fun found => (cs ++ found.1, found.2)

theorem Through.nil : Through [] := by
  intro rest
  rw [List.nil_append]
  exact Option.map_id'.symm

theorem Through.append {cs ds : List Char} (hcs : Through cs) (hds : Through ds) :
    Through (cs ++ ds) := by
  intro rest
  rw [List.append_assoc, hcs, hds, Option.map_map]
  refine congrArg (fun f => Option.map f (untilTagEnd none rest)) (funext fun found => ?_)
  simp

theorem through_singleton {c : Char} (h : c ≠ '>' ∧ c ≠ '"' ∧ c ≠ '\'') : Through [c] := by
  intro rest
  have hquote : ¬(c = '"' ∨ c = '\'') := fun hc => hc.elim h.2.1 h.2.2
  rw [List.singleton_append, untilTagEnd]
  simp only [if_neg h.1, if_neg hquote]
  rfl

theorem through_of_forall {cs : List Char} (h : ∀ c ∈ cs, c ≠ '>' ∧ c ≠ '"' ∧ c ≠ '\'') :
    Through cs := by
  induction cs with
  | nil => exact Through.nil
  | cons c rest ih =>
    rw [List.forall_mem_cons] at h
    exact (through_singleton h.1).append (ih h.2)

theorem untilTagEnd_quoted {value : List Char} (h : '"' ∉ value) (rest : List Char) :
    untilTagEnd (some '"') (value ++ '"' :: rest) =
      (untilTagEnd none rest).map fun found => (value ++ '"' :: found.1, found.2) := by
  induction value with
  | nil => rfl
  | cons c tail ih =>
    rw [List.mem_cons, not_or] at h
    have hc : ¬c = '"' := fun heq => h.1 heq.symm
    rw [List.cons_append, untilTagEnd, if_neg hc, ih h.2, Option.map_map]
    rfl

theorem through_quoted {value : List Char} (h : '"' ∉ value) :
    Through ('"' :: (value ++ ['"'])) := by
  intro rest
  have hopen : untilTagEnd none ('"' :: (value ++ '"' :: rest)) =
      (untilTagEnd (some '"') (value ++ '"' :: rest)).map fun found => ('"' :: found.1, found.2) :=
    rfl
  rw [List.cons_append, List.append_assoc, List.singleton_append, hopen, untilTagEnd_quoted h,
    Option.map_map]
  refine congrArg (fun f => Option.map f (untilTagEnd none rest)) (funext fun found => ?_)
  simp

/-- A tag ends behind a text that the scan passes. -/
theorem Through.untilTagEnd {cs : List Char} (h : Through cs) (rest : List Char) :
    untilTagEnd none (cs ++ '>' :: rest) = some (cs, rest) := by
  have hend : Event.untilTagEnd none ('>' :: rest) = some ([], rest) := rfl
  rw [h, hend, Option.map_some, List.append_nil]

theorem through_name {name : String} (h : isName name = true) : Through name.toList := by
  refine through_of_forall fun c hc => ?_
  have hchar := Tag.isNameChar_of_mem h hc
  exact ⟨Tag.ne_of_isNameChar hchar (by decide), Tag.ne_of_isNameChar hchar (by decide),
    Tag.ne_of_isNameChar hchar (by decide)⟩

/-- The inside of a tag has its quotes closed. -/
theorem through_write {name : String} {entries : List (String × String)} (h : isName name = true)
    (hnames : ∀ entry ∈ entries, isName entry.1 = true) : Through (Tag.write name entries) := by
  refine (through_name h).append ?_
  induction entries with
  | nil => exact Through.nil
  | cons entry rest ih =>
    rw [List.forall_mem_cons] at hnames
    have hspace : Through [' '] := through_singleton (by decide)
    have hequals : Through ['='] := through_singleton (by decide)
    have hvalue := through_quoted (Tag.quote_notMem_escape entry.2.toList)
    have hentry : Through (Tag.writeAttribute entry) :=
      hspace.append ((through_name hnames.1).append (hequals.append hvalue))
    rw [List.flatMap_cons]
    exact hentry.append (ih hnames.2)

/-! ## The ends of comments, instructions and sections -/

/-- The first mark that counts is the one behind the text. -/
theorem untilMark_append {accept : List Char → Bool} {before cs : List Char}
    (hinside : ∀ init tail, cs = init ++ '>' :: tail → accept (init.reverse ++ before) = false)
    (hend : accept (cs.reverse ++ before) = true) (rest : List Char) :
    untilMark accept before (cs ++ '>' :: rest) = some (cs, rest) := by
  induction cs generalizing before with
  | nil =>
    rw [List.nil_append, untilMark]
    exact if_pos ⟨rfl, hend⟩
  | cons c tail ih =>
    have hc : ¬(c = '>' ∧ accept before = true) := by
      rintro ⟨rfl, haccept⟩
      exact Bool.eq_false_iff.mp (hinside [] tail rfl) haccept
    have htail : untilMark accept (c :: before) (tail ++ '>' :: rest) = some (tail, rest) := by
      refine ih (fun init tail' heq => ?_) ?_
      · have h := hinside (c :: init) tail' (congrArg (List.cons c) heq)
        rwa [List.reverse_cons, List.append_assoc] at h
      · rwa [List.reverse_cons, List.append_assoc] at hend
    rw [List.cons_append, untilMark, if_neg hc, htail]
    rfl

/-- A scan for a mark stops at the first one that counts. -/
theorem of_untilMark {accept : List Char → Bool} {before input inside rest : List Char}
    (h : untilMark accept before input = some (inside, rest)) :
    accept (inside.reverse ++ before) = true ∧
      ∀ init tail, inside = init ++ '>' :: tail → accept (init.reverse ++ before) = false := by
  induction input generalizing before inside with
  | nil => cases h
  | cons c input ih =>
    rw [untilMark] at h
    split at h
    · rename_i hend
      cases h
      refine ⟨hend.2, fun init tail hsplit => ?_⟩
      cases init <;> cases hsplit
    · rename_i hgo
      obtain ⟨⟨inside', rest'⟩, hfound, heq⟩ := Option.map_eq_some_iff.mp h
      cases heq
      obtain ⟨haccept, hfirst⟩ := ih hfound
      refine ⟨by rwa [List.reverse_cons, List.append_assoc], fun init tail hsplit => ?_⟩
      cases init with
      | nil =>
        cases hsplit
        exact Bool.eq_false_iff.mpr fun hstop => hgo ⟨rfl, hstop⟩
      | cons d init =>
        obtain ⟨rfl, htail⟩ := List.cons.inj hsplit
        rw [List.reverse_cons, List.append_assoc]
        exact hfirst init tail htail

theorem exists_of_append_left {text back init tail : List Char} (hback : '>' ∉ back)
    (h : text ++ back = init ++ '>' :: tail) : ∃ behind, text = init ++ '>' :: behind := by
  rcases exists_of_append_eq_append_cons h with ⟨behind, htext, -⟩ | ⟨head, -, hmore⟩
  · exact ⟨behind, htext⟩
  · exact absurd (by simp [hmore]) hback

/-- A mark stands in the text between two others that have none. -/
theorem exists_of_append {front text back init tail : List Char} (hfront : '>' ∉ front)
    (hback : '>' ∉ back) (h : front ++ (text ++ back) = init ++ '>' :: tail) :
    ∃ before behind, text = before ++ '>' :: behind ∧ init = front ++ before := by
  rcases exists_of_append_eq_append_cons h with ⟨more, hmore, -⟩ | ⟨before, hinit, hrest⟩
  · exact absurd (by simp [hmore]) hfront
  · obtain ⟨behind, htext⟩ := exists_of_append_left hback hrest
    exact ⟨before, behind, htext, hinit⟩

/-- A text between its opening and its closing goes up to the closing, if no mark in it counts. -/
theorem untilMark_between {accept : List Char → Bool} {front text back : List Char}
    (hfront : '>' ∉ front) (hback : '>' ∉ back)
    (htext : ∀ before behind, text = before ++ '>' :: behind →
      accept (front ++ before).reverse = false)
    (hend : accept (front ++ (text ++ back)).reverse = true) (rest : List Char) :
    untilMark accept [] (front ++ (text ++ back) ++ '>' :: rest) =
      some (front ++ (text ++ back), rest) := by
  refine untilMark_append (fun init tail heq => ?_) ?_ rest
  · obtain ⟨before, behind, hsplit, rfl⟩ := exists_of_append hfront hback heq
    rw [List.append_nil]
    exact htext before behind hsplit
  · rwa [List.append_nil]

/-! ## Pieces of markup -/

section Pieces

variable {opened : List (List Char)}

theorem endsComment_append {before behind text : List Char} (h : ¬['-', '-', '>'] <:+: text)
    (htext : text = before ++ '>' :: behind) :
    endsComment (['!', '-', '-'] ++ before).reverse = false := by
  refine Bool.eq_false_iff.mpr fun hends => h ?_
  rw [endsComment, Bool.and_eq_true, decide_eq_true_eq, List.isPrefixOf_iff_prefix,
    List.reverse_append] at hends
  have hlength : ['-', '-'].length ≤ before.reverse.length := by
    have hlong := hends.1
    simp only [List.length_append, List.length_reverse, List.length_cons, List.length_nil]
      at hlong ⊢
    omega
  have hdashes : ['-', '-'] <+: before.reverse :=
    List.prefix_of_prefix_length_le hends.2 (List.prefix_append _ _) hlength
  obtain ⟨start, rfl⟩ : ['-', '-'].reverse <:+ before :=
    List.reverse_prefix.mp (by rwa [List.reverse_reverse])
  exact ⟨start, behind, by simp [htext]⟩

/-- A comment goes up to its first end, which its text does not hold. -/
theorem next_comment {text : List Char} (h : ¬['-', '-', '>'] <:+: text) (rest : List Char) :
    next opened ('!' :: '-' :: '-' :: (text ++ '-' :: '-' :: '>' :: rest)) =
      .ok ⟨.aside, opened, rest⟩ := by
  have hmark : untilMark endsComment []
      (['!', '-', '-'] ++ (text ++ ['-', '-']) ++ '>' :: rest) =
        some (['!', '-', '-'] ++ (text ++ ['-', '-']), rest) :=
    untilMark_between (by decide) (by decide) (fun _ _ => endsComment_append h)
      (by simp [endsComment]) rest
  simp only [List.cons_append, List.nil_append, List.append_assoc] at hmark
  simp only [next, declaration, hmark]
  rfl

theorem endsInstruction_append {before behind text : List Char}
    (h : ¬['?', '>'] <:+: '?' :: text) (htext : text = before ++ '>' :: behind) :
    endsInstruction (['?'] ++ before).reverse = false := by
  refine Bool.eq_false_iff.mpr fun hends => h ?_
  rw [endsInstruction, List.isPrefixOf_iff_prefix] at hends
  obtain ⟨start, hstart⟩ : ['?'].reverse <:+ ['?'] ++ before :=
    List.reverse_prefix.mp (by rwa [List.reverse_reverse])
  have hsplit : '?' :: text = (['?'] ++ before) ++ '>' :: behind := congrArg _ htext
  refine ⟨start, behind, ?_⟩
  rw [hsplit, ← hstart]
  simp

/-- An instruction goes up to its first end, which neither its text holds nor the start of it. -/
theorem next_instruction {text : List Char} (h : ¬['?', '>'] <:+: '?' :: text)
    (rest : List Char) :
    next opened ('?' :: (text ++ '?' :: '>' :: rest)) = .ok ⟨.aside, opened, rest⟩ := by
  have hmark : untilMark endsInstruction [] (['?'] ++ (text ++ ['?']) ++ '>' :: rest) =
      some (['?'] ++ (text ++ ['?']), rest) :=
    untilMark_between (by decide) (by decide) (fun _ _ => endsInstruction_append h)
      (by simp [endsInstruction]) rest
  simp only [List.cons_append, List.nil_append, List.append_assoc] at hmark
  simp only [next, instruction, hmark]
  exact if_pos (by simp)

/-- A declaration is an instruction. -/
theorem next_declaration {text : List Char} (h : ¬['?', '>'] <:+: text) (rest : List Char) :
    next opened ('?' :: 'x' :: 'm' :: 'l' :: (text ++ '?' :: '>' :: rest)) =
      .ok ⟨.aside, opened, rest⟩ := by
  have hname : ¬['?', '>'] <:+: '?' :: 'x' :: 'm' :: 'l' :: text := by
    simp [List.infix_cons_iff, h]
  exact next_instruction hname rest

/-- Only the text of a section can end it. -/
theorem exists_of_endsVerbatim {before : List Char}
    (h : endsVerbatim ("![CDATA[".toList ++ before).reverse = true) :
    ∃ text, before = text ++ [']', ']'] := by
  rw [endsVerbatim, List.isPrefixOf_iff_prefix, List.reverse_append] at h
  rcases hbefore : before.reverse with _ | ⟨last, _ | ⟨second, more⟩⟩
  · rw [hbefore] at h
    exact absurd h (by decide)
  · rw [hbefore] at h
    simp at h
  · rw [hbefore] at h
    simp only [List.cons_append, List.cons_prefix_cons, List.nil_prefix, and_true] at h
    obtain ⟨rfl, rfl⟩ := h
    refine ⟨more.reverse, ?_⟩
    rw [← List.reverse_reverse before, hbefore]
    simp

theorem endsVerbatim_append {before behind text : List Char} (h : ¬[']', ']', '>'] <:+: text)
    (htext : text = before ++ '>' :: behind) :
    endsVerbatim ("![CDATA[".toList ++ before).reverse = false := by
  refine Bool.eq_false_iff.mpr fun hends => h ?_
  obtain ⟨start, rfl⟩ := exists_of_endsVerbatim hends
  exact ⟨start, behind, by simp [htext]⟩

/-- A character data section goes up to its first end, which its text does not hold. -/
theorem next_verbatim {text : List Char} (h : ¬[']', ']', '>'] <:+: text) (rest : List Char) :
    next opened ("![CDATA[".toList ++ (text ++ ']' :: ']' :: '>' :: rest)) =
      .ok ⟨.verbatim (String.ofList text), opened, rest⟩ := by
  have hmark : untilMark endsVerbatim []
      ("![CDATA[".toList ++ (text ++ [']', ']']) ++ '>' :: rest) =
        some ("![CDATA[".toList ++ (text ++ [']', ']']), rest) :=
    untilMark_between (by decide) (by decide) (fun _ _ => endsVerbatim_append h)
      (by simp [endsVerbatim]) rest
  simp only [String.reduceToList, List.cons_append, List.nil_append, List.append_assoc]
    at hmark ⊢
  simp only [next, declaration, hmark]
  simp

/-! ## Tags -/

section Tags

variable {name : String} {entries : List (String × String)}

/-- The inside of a tag starts like an element. -/
theorem next_write (h : isName name = true) (rest : List Char) :
    next opened (Tag.write name entries ++ rest) =
      startTag opened (Tag.write name entries ++ rest) := by
  obtain ⟨first, tail, hcons, hfirst, -⟩ := Tag.exists_cons_of_isName h
  have hstart : Tag.write name entries ++ rest =
      first :: (tail ++ (entries.flatMap Tag.writeAttribute ++ rest)) := by
    rw [Tag.write, hcons]
    simp
  have hmarks : first ≠ '!' ∧ first ≠ '/' ∧ first ≠ '?' := by
    rcases hfirst with hfirst | rfl
    · refine ⟨?_, ?_, ?_⟩ <;> rintro rfl <;> exact absurd hfirst (by decide)
    · decide
  rw [hstart, next.eq_def]
  split
  · rename_i hnil
    cases hnil
  · rename_i heq
    exact absurd (List.cons.inj heq).1 hmarks.1
  · rename_i heq
    exact absurd (List.cons.inj heq).1 hmarks.2.1
  · rename_i heq
    exact absurd (List.cons.inj heq).1 hmarks.2.2
  · rfl

theorem getLast?_write (h : isName name = true) :
    (Tag.write name entries).getLast? ≠ some '/' := by
  rcases List.eq_nil_or_concat entries with rfl | ⟨init, entry, rfl⟩
  · intro hlast
    rw [Tag.write, List.flatMap_nil, List.append_nil] at hlast
    have hmem := List.mem_of_getLast? hlast
    exact Tag.ne_of_isNameChar (Tag.isNameChar_of_mem h hmem) (by decide) rfl
  · have hquote : Tag.write name (init.concat entry) =
        name.toList ++ (init.flatMap Tag.writeAttribute ++ (' ' :: (entry.1.toList ++
          '=' :: '"' :: escape (fun _ => false) entry.2.toList))) ++ ['"'] := by
      simp [Tag.write, Tag.writeAttribute]
    rw [hquote, List.getLast?_concat]
    decide

theorem next_close (h : isName name = true) {outer : List (List Char)} (rest : List Char) :
    next (name.toList :: outer) ('/' :: (name.toList ++ '>' :: rest)) =
      .ok ⟨.close, outer, rest⟩ := by
  have hslash : Through ('/' :: name.toList) :=
    Through.append (through_singleton (by decide)) (through_name h)
  have hend := hslash.untilTagEnd rest
  have hname : endName name.toList = name.toList := by
    rw [endName]
    split
    · rfl
    · exact dropEndWhile_of_forall_not fun c hc =>
        Tag.isSpace_of_isNameChar (Tag.isNameChar_of_mem h hc)
  rw [List.cons_append] at hend
  simp only [next, endTag, hend, List.drop_succ_cons, List.drop_zero, hname, if_true]

variable (h : isName name = true) (hnames : ∀ entry ∈ entries, isName entry.1 = true)
  (hnodup : (entries.map (·.1)).Nodup)

include h hnames hnodup

theorem next_start (rest : List Char) :
    next opened (Tag.write name entries ++ '>' :: rest) =
      .ok ⟨.start name entries, name.toList :: opened, rest⟩ := by
  have hopen : ((Tag.write name entries).getLast? == some '/') = false := by
    rw [beq_eq_false_iff_ne]
    exact getLast?_write h
  rw [next_write h, startTag, (through_write h hnames).untilTagEnd rest]
  simp only [hopen, Bool.false_eq_true, if_false, Tag.attributes_write h hnames hnodup,
    Tag.name_write h, String.ofList_toList]

theorem next_empty (rest : List Char) :
    next opened (Tag.write name entries ++ '/' :: '>' :: rest) =
      .ok ⟨.empty name entries, opened, rest⟩ := by
  have hslash : Through (Tag.write name entries ++ ['/']) :=
    (through_write h hnames).append (through_singleton (by decide))
  have hend := hslash.untilTagEnd rest
  rw [List.append_assoc, List.singleton_append] at hend
  rw [next_write h, startTag, hend]
  simp only [List.getLast?_concat, BEq.rfl, if_true, List.dropLast_concat,
    Tag.attributes_write h hnames hnodup, Tag.name_write h, String.ofList_toList]

end Tags

end Pieces

/-! ## The scan of a document -/

/-- The scan of an input gives some events and goes on with the rest. -/
def Reads (opened : List (List Char)) (input : List Char) (events : List Event)
    (opened' : List (List Char)) (rest : List Char) : Prop :=
  scanFrom opened input = (events ++ (scanFrom opened' rest).1, (scanFrom opened' rest).2)

/-- Where a text run ends: at markup or at the end of the document. -/
def AtMark (rest : List Char) : Prop :=
  rest = [] ∨ ∃ body, rest = '<' :: body

section Scan

variable {opened opened' opened'' : List (List Char)} {input start rest rest' : List Char}
  {events events' : List Event}

theorem Reads.refl : Reads opened input [] opened input :=
  rfl

theorem Reads.trans (h : Reads opened input events opened' rest)
    (h' : Reads opened' rest events' opened'' rest') :
    Reads opened input (events ++ events') opened'' rest' := by
  rw [Reads] at h h' ⊢
  rw [h, h', List.append_assoc]

/-- The scan reads a text run and then a piece of markup. -/
theorem scanFrom_of_mark {body : List Char} (hstart : input.dropWhile isSpace = start)
    (hrun : run start = .ok events) (hrest : start.dropWhile (· != '<') = '<' :: body) :
    scanFrom opened input =
      match next opened body with
      | .error stop => (events, some stop)
      | .ok step =>
        (events ++ step.event :: (scanFrom step.opened step.rest).1,
          (scanFrom step.opened step.rest).2) := by
  subst hstart
  rw [scanFrom]
  split
  · rename_i hstop
    rw [hrun] at hstop
    cases hstop
  · rename_i texts htexts
    rw [hrun] at htexts
    cases htexts
    split
    · rename_i hnil
      rw [hrest] at hnil
      cases hnil
    · rename_i c body' hbody
      rw [hrest, List.cons.injEq] at hbody
      obtain ⟨-, rfl⟩ := hbody
      split
      · rename_i hstop
        rw [hstop]
      · rename_i hstep
        rw [hstep]

/-- The last text run of a document. -/
theorem scanFrom_of_nil (hstart : input.dropWhile isSpace = start)
    (hrun : run start = .ok events) (hrest : start.dropWhile (· != '<') = []) :
    scanFrom opened input = (events, none) := by
  subst hstart
  rw [scanFrom]
  split
  · rename_i hstop
    rw [hrun] at hstop
    cases hstop
  · rename_i texts htexts
    rw [hrun] at htexts
    cases htexts
    split
    · rfl
    · rename_i hcons
      rw [hrest] at hcons
      cases hcons

/-- A piece of markup is one event. -/
theorem reads_markup {body : List Char} {event : Event}
    (h : next opened body = .ok ⟨event, opened', rest⟩) :
    Reads opened ('<' :: body) [event] opened' rest := by
  rw [Reads, scanFrom_of_mark rfl rfl rfl, h]
  rfl

/-- A text run goes up to the next piece of markup or to the end. -/
theorem reads_run (hstart : input.dropWhile isSpace = start) (hrun : run start = .ok events)
    (hrest : start.dropWhile (· != '<') = rest) (hmark : AtMark rest) :
    Reads opened input events opened rest := by
  rcases hmark with rfl | ⟨body, rfl⟩
  · have hend : scanFrom opened [] = ([], none) := scanFrom_of_nil rfl rfl rfl
    rw [Reads, scanFrom_of_nil hstart hrun hrest, hend, List.append_nil]
  · rw [Reads, scanFrom_of_mark hstart hrun hrest, scanFrom_of_mark rfl rfl rfl]
    split
    · rw [List.append_nil]
    · rw [List.nil_append]

theorem AtMark.dropWhile_append (hmark : AtMark rest) (cs : List Char) :
    (cs ++ rest).dropWhile isSpace = cs.dropWhile isSpace ++ rest := by
  rw [List.dropWhile_append]
  split
  · rename_i hempty
    rw [List.isEmpty_iff.mp hempty]
    rcases hmark with rfl | ⟨body, rfl⟩ <;> rfl
  · rfl

theorem mark_notMem_dropWhile {cs : List Char} (h : '<' ∉ cs) : '<' ∉ cs.dropWhile isSpace :=
  fun hmem => h ((List.dropWhile_sublist isSpace).mem hmem)

/-- A text run gives its content, unless nothing is left of it. -/
theorem reads_text {cs content : List Char} (hcs : '<' ∉ cs) (hmark : AtMark rest)
    (hcontent : Reference.expand (dropEndWhile isSpace (cs.dropWhile isSpace)) = .ok content) :
    Reads opened (cs ++ rest)
      (if dropEndWhile isSpace (cs.dropWhile isSpace) = [] then []
        else [.text (String.ofList content)]) opened rest := by
  have hchars := forall_bne_of_notMem (mark_notMem_dropWhile hcs)
  have hend : ∀ c ∈ rest.head?, (c != '<') = false := by
    rcases hmark with rfl | ⟨body, rfl⟩ <;> simp
  have htake : (cs.dropWhile isSpace ++ rest).takeWhile (· != '<') = cs.dropWhile isSpace :=
    takeWhile_append_of_head? hchars hend
  have hdrop : (cs.dropWhile isSpace ++ rest).dropWhile (· != '<') = rest :=
    dropWhile_append_of_head? hchars hend
  refine reads_run (hmark.dropWhile_append cs) ?_ hdrop hmark
  rw [run, htake]
  generalize dropEndWhile isSpace (cs.dropWhile isSpace) = raw at hcontent
  cases raw with
  | nil => rfl
  | cons c raw => simp only [hcontent, reduceCtorEq, if_false]

end Scan

end FormFetch.Markup.Event
