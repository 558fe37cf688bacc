import FormFetch.Proofs.Markup.Place

/-!
# The content of an element

Character data in all the ways to write it: runs of characters and references, with comments,
instructions and character data sections between them.

* `Run`, `Mark` and `Writing` are the ways to write, each with its characters and what they
  stand for.  `exists_run` says that every text with references is a run.
* `Writing.reads` reads a writing, and `exists_writing` finds one where an element has no child
  elements.
* `text_nodes` is what is left of a writing: of each run the white space at its ends is lost.
-/

namespace FormFetch.Markup

open FormFetch.Text
open FormFetch.Markup.Tag (isSpace)
open FormFetch.Markup.Event (AtMark IsCharacters Reads Scanned next)
open FormFetch.Markup.Reference (StandsFor)

/-! ## Writings -/

/-- Characters and references.  `core` starts and ends with something else than white space, and
stands for `content`. -/
structure Run where
  front : List Char
  core : List Char
  back : List Char
  content : List Char
  space_front : ∀ c ∈ front, isSpace c = true
  space_back : ∀ c ∈ back, isSpace c = true
  edged : Edged isSpace core
  unmarked : '<' ∉ core
  standsFor : StandsFor core content

/-- Markup is read as an aside, wherever it stands. -/
def IsAside (inside : List Char) : Prop :=
  ∀ opened rest, next opened (inside ++ '>' :: rest) = .ok ⟨.aside, opened, rest⟩

/-- What may stand between two runs. -/
inductive Mark where
  | comment (text : List Char) (h : ¬['-', '-', '>'] <:+: text)
  | instruction (text : List Char) (h : ¬['?', '>'] <:+: '?' :: text)
  | verbatim (text : List Char) (h : ¬[']', ']', '>'] <:+: text)
  /-- Other markup that adds nothing, such as a document type. -/
  | other (inside : List Char) (h : IsAside inside)

/-- The content of an element without child elements: runs with marks between them. -/
inductive Writing where
  | last (run : Run)
  | more (run : Run) (mark : Mark) (rest : Writing)

/-- A text as a child; an empty one is none. -/
def textNodes (content : List Char) : List Node :=
  if content = [] then [] else [.text (String.ofList content)]

namespace Run

/-- The run as it is written. -/
def chars (r : Run) : List Char :=
  r.front ++ (r.core ++ r.back)

/-- What the run stands for. -/
def meaning (r : Run) : List Char :=
  r.front ++ (r.content ++ r.back)

/-- What the run stands for, with what the reader keeps of it. -/
def marked (r : Run) : List (Char × Bool) :=
  flagged false r.front ++ (flagged true r.content ++ flagged false r.back)

end Run

namespace Mark

/-- The mark as it is written. -/
def chars : Mark → List Char
  | comment text _ => Markup.comment text
  | instruction text _ => '<' :: '?' :: (text ++ ['?', '>'])
  | verbatim text _ => '<' :: ("![CDATA[".toList ++ (text ++ [']', ']', '>']))
  | other inside _ => '<' :: (inside ++ ['>'])

/-- What the mark stands for. -/
def content : Mark → List Char
  | verbatim text _ => text
  | comment .. | instruction .. | other .. => []

end Mark

namespace Writing

/-- The content as it is written. -/
def chars : Writing → List Char
  | last run => run.chars
  | more run mark rest => run.chars ++ (mark.chars ++ rest.chars)

/-- The characters that the content stands for. -/
def meaning : Writing → List Char
  | last run => run.meaning
  | more run mark rest => run.meaning ++ (mark.content ++ rest.meaning)

/-- The characters that the content stands for, with what the reader keeps of them. -/
def marked : Writing → List (Char × Bool)
  | last run => run.marked
  | more run mark rest => run.marked ++ (flagged true mark.content ++ rest.marked)

/-- The children that the content gives. -/
def nodes : Writing → List Node
  | last run => textNodes run.content
  | more run mark rest => textNodes run.content ++ (textNodes mark.content ++ rest.nodes)

end Writing

/-! ## What a writing stands for -/

theorem notMem_of_space {cs : List Char} {c : Char} (hcs : ∀ d ∈ cs, isSpace d = true)
    (hc : isSpace c = false) : c ∉ cs :=
  fun hmem => by simp [hcs c hmem] at hc

/-- A run stands for its meaning. -/
theorem Run.standsFor_chars (r : Run) : StandsFor r.chars r.meaning :=
  (Reference.standsFor_self (notMem_of_space r.space_front rfl)).append
    (r.standsFor.append (Reference.standsFor_self (notMem_of_space r.space_back rfl)))

/-- Every text without markup that stands for another is a run. -/
theorem exists_run {cs text : List Char} (hcs : '<' ∉ cs) (h : StandsFor cs text) :
    ∃ r : Run, r.chars = cs ∧ r.meaning = text := by
  obtain ⟨front, core, back, rfl, hfront, hcore, hback⟩ := exists_edged isSpace cs
  obtain ⟨text', rfl, hrest⟩ := h.of_append_left (notMem_of_space hfront rfl)
  obtain ⟨content, rfl, hcontent⟩ :=
    hrest.of_append_right (notMem_of_space hback rfl) (notMem_of_space hback rfl)
  have hmark : '<' ∉ core := fun hmem => hcs (by simp [hmem])
  exact ⟨⟨front, core, back, content, hfront, hback, hcore, hmark, hcontent⟩, rfl, rfl⟩

theorem Run.map_marked (r : Run) : r.marked.map (·.1) = r.meaning := by
  simp [marked, meaning]

theorem Writing.map_marked (w : Writing) : w.marked.map (·.1) = w.meaning := by
  induction w with
  | last run => exact run.map_marked
  | more run mark rest ih => simp [marked, meaning, run.map_marked, ih]

/-- Only white space is lost. -/
theorem Run.isSpace_of_lost (r : Run) : ∀ x ∈ r.marked, x.2 = false → isSpace x.1 = true := by
  intro x hx hlost
  simp only [marked, List.mem_append, mem_flagged] at hx
  rcases hx with ⟨hfront, -⟩ | ⟨-, hkept⟩ | ⟨hback, -⟩
  · exact r.space_front x.1 hfront
  · cases hlost.symm.trans hkept
  · exact r.space_back x.1 hback

theorem Writing.isSpace_of_lost (w : Writing) :
    ∀ x ∈ w.marked, x.2 = false → isSpace x.1 = true := by
  induction w with
  | last run => exact run.isSpace_of_lost
  | more run mark rest ih =>
    intro x hx hlost
    simp only [marked, List.mem_append, mem_flagged] at hx
    rcases hx with hrun | ⟨-, hkept⟩ | hrest
    · exact run.isSpace_of_lost x hrun hlost
    · cases hlost.symm.trans hkept
    · exact ih x hrest hlost

/-! ## What is read from a writing -/

theorem Element.text_append (name : String) (attributes : List (String × String))
    (nodes more : List Node) :
    Element.text ⟨name, attributes, nodes ++ more⟩ =
      Element.text ⟨name, attributes, nodes⟩ ++ Element.text ⟨name, attributes, more⟩ := by
  rw [Element.text, List.filterMap_append, String.join_append]
  rfl

theorem text_textNodes (name : String) (attributes : List (String × String))
    (content : List Char) :
    Element.text ⟨name, attributes, textNodes content⟩ = String.ofList content := by
  unfold textNodes
  split
  · rename_i hnil
    rw [hnil]
    rfl
  · exact String.empty_append

/-- What is left of a writing. -/
theorem text_nodes (name : String) (attributes : List (String × String)) (w : Writing) :
    Element.text ⟨name, attributes, w.nodes⟩ = String.ofList (kept w.marked) := by
  have hrun : ∀ run : Run, kept run.marked = run.content := fun run => by simp [Run.marked]
  induction w with
  | last run => rw [Writing.nodes, Writing.marked, text_textNodes, hrun]
  | more run mark rest ih =>
    rw [Writing.nodes, Writing.marked, Element.text_append, Element.text_append, text_textNodes,
      text_textNodes, ih, kept_append, kept_append, hrun, kept_flagged_true,
      String.ofList_append, String.ofList_append]

section Reading

variable {opened : List (List Char)} {rest : List Char}

/-- A text inside an element is read as its nodes. -/
theorem spellsNodes_text {names : List String} (hnames : names ≠ []) {e : Event}
    {content : List Char}
    (he : e = .text (String.ofList content) ∨ e = .verbatim (String.ofList content)) :
    SpellsNodes names [e] (textNodes content) := by
  intro more
  have htoken : Event.token names e = Node.tokens (textNodes content) := by
    have hempty : String.ofList content = "" ↔ content = [] := by
      rw [← String.toList_eq_nil_iff, String.toList_ofList]
    unfold textNodes
    rcases he with rfl | rfl <;>
    · simp only [Event.token, hempty, hnames, false_and, or_false]
      split
      · rw [Node.tokens]
      · rw [Node.tokens, Node.tokens]
  have hopened : Event.openAfter names e = names := by
    rcases he with rfl | rfl <;> rfl
  rw [List.singleton_append, Event.tokens, htoken, hopened]

theorem Run.reads (r : Run) (hopened : opened ≠ []) (hmark : AtMark rest) :
    ReadsNodes opened (r.chars ++ rest) (textNodes r.content) rest := by
  have hstrip : dropEndWhile isSpace (r.chars.dropWhile isSpace) = r.core :=
    strip_append r.space_front r.edged r.space_back
  have hchars : '<' ∉ r.chars := by
    rw [chars, List.mem_append, List.mem_append, not_or, not_or]
    exact ⟨notMem_of_space r.space_front rfl, r.unmarked, notMem_of_space r.space_back rfl⟩
  have hreads : Reads opened _ _ opened rest := Event.reads_text hchars hmark
    (hstrip.symm ▸ Reference.expand_eq_ok_iff.mpr r.standsFor)
  rw [hstrip] at hreads
  refine ⟨_, hreads, ?_⟩
  split
  · rename_i hnil
    have hcontent : StandsFor [] r.content := hnil ▸ r.standsFor
    rw [Reference.StandsFor.nil.unique hcontent]
    intro more
    rw [textNodes, if_pos rfl, Node.tokens]
    rfl
  · exact spellsNodes_text (by simpa using hopened) (Or.inl rfl)

theorem Mark.reads (m : Mark) (hopened : opened ≠ []) :
    ReadsNodes opened (m.chars ++ rest) (textNodes m.content) rest := by
  cases m with
  | comment text h => exact reads_comment h
  | instruction text h =>
    have hreads : ReadsNodes opened _ [] rest := reads_aside (Event.next_instruction h rest)
    simpa [chars, content, textNodes] using hreads
  | verbatim text h =>
    have hreads : Reads opened _ _ opened rest :=
      Event.reads_markup (Event.next_verbatim h rest)
    refine ⟨_, ?_, spellsNodes_text (by simpa using hopened) (Or.inr rfl)⟩
    simpa [chars, content] using hreads
  | other inside h =>
    have hreads : ReadsNodes opened _ [] rest := reads_aside (h opened rest)
    simpa [chars, content, textNodes] using hreads

theorem Mark.atMark (m : Mark) (cs : List Char) : AtMark (m.chars ++ cs) := by
  cases m <;> exact Or.inr ⟨_, rfl⟩

/-- A writing is read as its nodes. -/
theorem Writing.reads (w : Writing) (hopened : opened ≠ []) (hmark : AtMark rest) :
    ReadsNodes opened (w.chars ++ rest) w.nodes rest := by
  induction w with
  | last run => exact run.reads hopened hmark
  | more run mark w ih =>
    rw [chars, List.append_assoc, List.append_assoc]
    exact (run.reads hopened (mark.atMark _)).append ((mark.reads hopened).append ih)

end Reading

/-! ## The writing of what is read -/

namespace Event

variable {opened : List (List Char)} {input inside rest : List Char} {step : Step}

/-- What is open does not matter for a comment or a section. -/
theorem declaration_opened (opened : List (List Char)) (input : List Char) :
    declaration opened input = (declaration [] input).map ({ · with opened := opened }) := by
  unfold declaration
  repeat' split
  all_goals rfl

theorem instruction_opened (opened : List (List Char)) (input : List Char) :
    instruction opened input = (instruction [] input).map ({ · with opened := opened }) := by
  unfold instruction
  repeat' split
  all_goals rfl

theorem not_isCharacters_of_endTag (h : endTag opened input = .ok step) :
    ¬IsCharacters step.event := by
  unfold endTag at h
  dsimp only at h
  repeat' split at h
  all_goals
    cases h
    try exact fun hcharacters => by cases hcharacters

theorem not_isCharacters_of_startTag (h : startTag opened input = .ok step) :
    ¬IsCharacters step.event := by
  unfold startTag at h
  dsimp only at h
  repeat' split at h
  all_goals
    cases h
    try exact fun hcharacters => by cases hcharacters

/-- Markup that adds characters or nothing is read the same wherever it stands. -/
theorem next_of_isCharacters (h : next opened input = .ok step) (he : IsCharacters step.event) :
    step.opened = opened ∧ ∀ opened', next opened' input = .ok { step with opened := opened' } := by
  have hsame : ∀ read : List (List Char) → List Char → Except Stop Step,
      (∀ opened input, read opened input =
        (read [] input).map ({ · with opened := opened })) → read opened input = .ok step →
      step.opened = opened ∧
        ∀ opened', read opened' input = .ok { step with opened := opened' } := by
    intro read hread hstep
    rw [hread] at hstep
    cases hfirst : read [] input with
    | error stop =>
      rw [hfirst] at hstep
      cases hstep
    | ok first =>
      rw [hfirst] at hstep
      cases hstep
      exact ⟨rfl, fun opened' => by rw [hread, hfirst]; rfl⟩
  cases input with
  | nil => cases h
  | cons c tail =>
    simp only [next_cons] at h ⊢
    by_cases hdeclaration : c = '!'
    · simp only [hdeclaration, if_true] at h hsame ⊢
      exact hsame declaration declaration_opened h
    simp only [if_neg hdeclaration] at h ⊢
    by_cases hend : c = '/'
    · rw [if_pos hend] at h
      exact absurd he (not_isCharacters_of_endTag h)
    simp only [if_neg hend] at h ⊢
    by_cases hinstruction : c = '?'
    · simp only [hinstruction, if_true] at h hsame ⊢
      exact hsame instruction instruction_opened h
    · rw [if_neg hinstruction] at h
      exact absurd he (not_isCharacters_of_startTag h)

/-- A declaration that is read is an aside or a character data section. -/
theorem declaration_cases (h : declaration opened input = .ok step) :
    step.event = .aside ∨ ∃ text, ¬[']', ']', '>'] <:+: text ∧
      input = "![CDATA[".toList ++ (text ++ ']' :: ']' :: '>' :: step.rest) := by
  unfold declaration at h
  split at h
  · repeat' split at h
    all_goals
      cases h
      try exact Or.inl rfl
  · split at h
    · cases h
    · rename_i inside rest hfound
      split at h
      · rename_i hstart
        cases h
        obtain ⟨before, rfl⟩ := List.isPrefixOf_iff_prefix.mp hstart
        obtain ⟨hinput, -⟩ := endsAtMark_untilMark _ _ _ _ _ hfound
        obtain ⟨hends, hfirst⟩ := of_untilMark hfound
        rw [List.append_nil] at hends
        obtain ⟨text, rfl⟩ := exists_of_endsVerbatim hends
        refine Or.inr ⟨text, ?_, ?_⟩
        · rintro ⟨start, behind, rfl⟩
          have hstop := hfirst ("![CDATA[".toList ++ (start ++ [']', ']']))
            (behind ++ [']', ']']) (by simp)
          simp [endsVerbatim] at hstop
        · rw [hinput]
          simp
      · cases h
  · repeat' split at h
    all_goals
      cases h
      try exact Or.inl rfl
  · cases h

theorem event_of_instruction (h : instruction opened input = .ok step) : step.event = .aside := by
  unfold instruction at h
  repeat' split at h
  all_goals
    cases h
    try rfl

/-- Markup that adds characters or nothing to an element is an aside or a section. -/
theorem next_cases (h : next opened input = .ok step) (he : IsCharacters step.event) :
    step.event = .aside ∨ ∃ text, ¬[']', ']', '>'] <:+: text ∧
      input = "![CDATA[".toList ++ (text ++ ']' :: ']' :: '>' :: step.rest) := by
  cases input with
  | nil => cases h
  | cons c tail =>
    rw [next_cons] at h
    split at h
    · exact declaration_cases h
    · split at h
      · exact absurd he (not_isCharacters_of_endTag h)
      · split at h
        · exact Or.inl (event_of_instruction h)
        · exact absurd he (not_isCharacters_of_startTag h)

end Event

/-- Markup that adds characters or nothing to an element is a mark. -/
theorem exists_mark {opened : List (List Char)} {body : List Char} {step : Event.Step}
    (h : next opened body = .ok step) (he : IsCharacters step.event) :
    ∃ mark : Mark, '<' :: body = mark.chars ++ step.rest := by
  rcases Event.next_cases h he with haside | ⟨text, htext, hbody⟩
  · obtain ⟨inside, hbody, hmore⟩ := (Event.piece_next h).ends
    have hinside : IsAside inside := by
      intro opened' rest
      obtain ⟨-, hwhere⟩ := Event.next_of_isCharacters (hmore rest) he
      rw [hwhere, haside]
    exact ⟨.other inside hinside, by simp [Mark.chars, hbody]⟩
  · exact ⟨.verbatim text htext, by simp [Mark.chars, hbody]⟩

/-- What is read as a text run is a run. -/
theorem exists_run_of_run {lead : List Char} {texts : List Event} (hlead : '<' ∉ lead)
    (h : Event.run (lead.dropWhile isSpace) = .ok texts) : ∃ r : Run, r.chars = lead := by
  obtain ⟨front, core, back, rfl, hfront, hcore, hback⟩ := exists_edged isSpace lead
  have hmark : '<' ∉ core := fun hmem => hlead (by simp [hmem])
  have hstrip : dropEndWhile isSpace ((front ++ (core ++ back)).dropWhile isSpace) = core :=
    strip_append hfront hcore hback
  have htake := List.takeWhile_eq_self_iff.mpr
    (forall_bne_of_notMem (Event.mark_notMem_dropWhile hlead))
  obtain ⟨content, hcontent⟩ : ∃ content, StandsFor core content := by
    rw [Event.run, htake, hstrip] at h
    cases core with
    | nil => exact ⟨[], .nil⟩
    | cons c core =>
      cases hexpand : Reference.expand (c :: core) with
      | error fault =>
        simp only [hexpand] at h
        cases h
      | ok content => exact ⟨content, Reference.expand_eq_ok_iff.mp hexpand⟩
  exact ⟨⟨front, core, back, content, hfront, hback, hcore, hmark, hcontent⟩, rfl⟩

/-- Where an element has no child elements, what is written up to its end is a writing. -/
theorem exists_writing {opened : List (List Char)} {rest : List Char}
    {content later : List Event} (h : Scanned opened rest (content ++ .close :: later))
    (hcontent : ∀ e ∈ content, IsCharacters e) :
    ∃ (w : Writing) (tail : List Char), rest = w.chars ++ '<' :: tail ∧
      Scanned opened ('<' :: tail) (.close :: later) := by
  generalize hevents : content ++ .close :: later = events at h
  induction h generalizing content with
  | run hmark hrun =>
    obtain ⟨content, hclose⟩ := Event.isText_of_run hrun .close (by simp [← hevents])
    cases hclose
  | @piece opened lead inside texts later' step hlead hrun hnext hlater ih =>
    obtain ⟨run, rfl⟩ := exists_run_of_run hlead hrun
    rcases exists_of_append_eq_append_cons hevents.symm with ⟨tail, rfl, -⟩ | ⟨head, rfl, hrest⟩
    · obtain ⟨content, hclose⟩ := Event.isText_of_run hrun .close (by simp)
      cases hclose
    · cases head with
      | nil =>
        obtain ⟨hclose, rfl⟩ := List.cons.inj hrest
        refine ⟨.last run, inside ++ '>' :: step.rest, rfl, ?_⟩
        have hpiece : Scanned opened ([] ++ '<' :: (inside ++ '>' :: step.rest))
            ([] ++ step.event :: later') := .piece List.not_mem_nil rfl hnext hlater
        rw [← hclose]
        exact hpiece
      | cons first head =>
        obtain ⟨rfl, hbehind⟩ := List.cons.inj hrest
        have hcharacters : IsCharacters step.event := hcontent _ (by simp)
        obtain ⟨mark, hmark⟩ := exists_mark hnext hcharacters
        obtain ⟨hopened, -⟩ := Event.next_of_isCharacters hnext hcharacters
        obtain ⟨w, tail, hw, hscanned⟩ := ih (fun e he => hcontent e (by simp [he])) hbehind.symm
        refine ⟨.more run mark w, tail, ?_, hopened ▸ hscanned⟩
        rw [hmark, hw, Writing.chars]
        simp

end FormFetch.Markup
