import FormFetch.Proofs.Markup.Scan
import FormFetch.Proofs.Markup.Tree
import FormFetch.Proofs.Text.Utf8

/-!
# Written documents are read back

A document that is written with escaped texts is read back as the tree that it was written
from.

* `Node.Proper` are the trees that can be written, and `Node.Writes` the ways to write one;
  `Document.Writes` adds what may stand around the root.
* `ReadsNodes` is the part of a scan that spells nodes.  There is one lemma for each way to
  write a node, and `reads_of_writes` joins them along the tree.
* `Document.parse_writes` is the result.
-/

namespace FormFetch.Markup

open FormFetch.Text
open FormFetch.Markup.Tag (isSpace isName)
open FormFetch.Markup.Reference (escape)
open FormFetch.Markup.Event (AtMark Reads)

/-! ## Writing -/

/-- Elements and attributes have names, an element has no attribute twice, and no text is
empty. -/
def Node.Proper : List Node → Prop
  | [] => True
  | .text content :: rest => content ≠ "" ∧ Proper rest
  | .element name attributes children :: rest =>
    isName name = true ∧ (∀ entry ∈ attributes, isName entry.1 = true) ∧
      (attributes.map (·.1)).Nodup ∧ Proper children ∧ Proper rest

/-- A comment. -/
def comment (text : List Char) : List Char :=
  '<' :: '!' :: '-' :: '-' :: (text ++ ['-', '-', '>'])

/-- A declaration. -/
def declaration (text : List Char) : List Char :=
  '<' :: '?' :: 'x' :: 'm' :: 'l' :: (text ++ ['?', '>'])

/-- The ways to write nodes.  An element without children may be written as one tag, comments
may stand between the nodes, and a text ends at markup, so that there is a comment between two
adjacent texts.  The characters `spaces` of a text are written by their numbers. -/
inductive Node.Writes (spaces : Char → Bool) : List Node → List Char → Prop
  | nil : Writes spaces [] []
  | text {content : String} {rest : List Node} {cs : List Char} (hmark : AtMark cs)
      (hrest : Writes spaces rest cs) :
      Writes spaces (.text content :: rest) (escape spaces content.toList ++ cs)
  | comment {nodes : List Node} {cs : List Char} (text : List Char)
      (htext : ¬['-', '-', '>'] <:+: text) (hnodes : Writes spaces nodes cs) :
      Writes spaces nodes (comment text ++ cs)
  | empty {name : String} {attributes : List (String × String)} {rest : List Node}
      {cs : List Char} (hrest : Writes spaces rest cs) :
      Writes spaces (.element name attributes [] :: rest)
        ('<' :: (Tag.write name attributes ++ '/' :: '>' :: cs))
  | element {name : String} {attributes : List (String × String)} {children rest : List Node}
      {inner cs : List Char} (hchildren : Writes spaces children inner)
      (hrest : Writes spaces rest cs) :
      Writes spaces (.element name attributes children :: rest)
        ('<' :: (Tag.write name attributes ++
          '>' :: (inner ++ '<' :: '/' :: (name.toList ++ '>' :: cs))))

/-- White space and comments. -/
inductive Margin : List Char → Prop
  | blanks {cs : List Char} (hcs : ∀ c ∈ cs, isBlank c = true) : Margin cs
  | comment {cs text rest : List Char} (hcs : ∀ c ∈ cs, isBlank c = true)
      (htext : ¬['-', '-', '>'] <:+: text) (hrest : Margin rest) :
      Margin (cs ++ (comment text ++ rest))

theorem margin_nil : Margin [] :=
  Margin.blanks fun _ hc => absurd hc List.not_mem_nil

/-- What may stand in front of the root: a margin, and a declaration. -/
inductive Prolog : List Char → Prop
  | margin {cs : List Char} (hcs : Margin cs) : Prolog cs
  | declaration {cs text rest : List Char} (hcs : Margin cs) (htext : ¬['?', '>'] <:+: text)
      (hrest : Margin rest) : Prolog (cs ++ (declaration text ++ rest))

/-- The ways to write a document. -/
inductive Document.Writes (spaces : Char → Bool) (root : Element) : List Char → Prop
  | intro {front cs back : List Char} (hfront : Prolog front)
      (hroot : Node.Writes spaces [root.toNode] cs) (hback : Margin back) :
      Writes spaces root (front ++ (cs ++ back))

/-! ## The part of a scan that spells nodes -/

/-- Events spell nodes, whatever follows them. -/
def SpellsNodes (opened : List String) (events : List Event) (nodes : List Node) : Prop :=
  ∀ more, Event.tokens opened (events ++ more) = Node.tokens nodes ++ Event.tokens opened more

/-- The scan of an input goes through nodes up to the rest. -/
def ReadsNodes (opened : List (List Char)) (input : List Char) (nodes : List Node)
    (rest : List Char) : Prop :=
  ∃ events, Reads opened input events opened rest ∧
    SpellsNodes (opened.map String.ofList) events nodes

section Parts

variable {opened : List (List Char)} {input rest rest' : List Char} {nodes more : List Node}

theorem ReadsNodes.nil : ReadsNodes opened rest [] rest := by
  refine ⟨[], Reads.refl, fun more => ?_⟩
  rw [Node.tokens]
  rfl

theorem ReadsNodes.append (h : ReadsNodes opened input nodes rest)
    (h' : ReadsNodes opened rest more rest') : ReadsNodes opened input (nodes ++ more) rest' := by
  obtain ⟨events, hreads, hspells⟩ := h
  obtain ⟨events', hreads', hspells'⟩ := h'
  refine ⟨events ++ events', hreads.trans hreads', fun others => ?_⟩
  rw [List.append_assoc, hspells, hspells', Node.tokens_append, List.append_assoc]

theorem reads_aside {body : List Char}
    (h : Event.next opened body = .ok ⟨.aside, opened, rest⟩) :
    ReadsNodes opened ('<' :: body) [] rest := by
  refine ⟨[.aside], Event.reads_markup h, fun more => ?_⟩
  rw [Node.tokens]
  rfl

theorem reads_comment {text : List Char} (h : ¬['-', '-', '>'] <:+: text) :
    ReadsNodes opened (comment text ++ rest) [] rest := by
  have hreads : ReadsNodes opened _ [] rest := reads_aside (Event.next_comment h rest)
  simpa [comment] using hreads

theorem reads_declaration {text : List Char} (h : ¬['?', '>'] <:+: text) :
    ReadsNodes opened (declaration text ++ rest) [] rest := by
  have hreads : ReadsNodes opened _ [] rest := reads_aside (Event.next_declaration h rest)
  simpa [declaration] using hreads

/-- An escaped text inside an element is read as one text. -/
theorem reads_escape {spaces : Char → Bool} (hspaces : ∀ c, isSpace c = true → spaces c = true)
    (hzero : ∀ c, spaces c = true → c.toNat ≠ 0) {content : String} (hcontent : content ≠ "")
    (hopened : opened ≠ []) (hmark : AtMark rest) :
    ReadsNodes opened (escape spaces content.toList ++ rest) [.text content] rest := by
  have hnone : ∀ c ∈ escape spaces content.toList, isSpace c = false := fun c hc =>
    Reference.isSpace_of_mem_escape hspaces hc
  have hraw : dropEndWhile isSpace ((escape spaces content.toList).dropWhile isSpace) =
      escape spaces content.toList := by
    rw [dropWhile_of_forall_not hnone, dropEndWhile_of_forall_not hnone]
  have hne : escape spaces content.toList ≠ [] :=
    Reference.escape_ne_nil fun hnil => hcontent (String.toList_eq_nil_iff.mp hnil)
  have hmarkup : '<' ∉ escape spaces content.toList := fun hmem =>
    Reference.ne_of_mem_escape hmem (by decide) rfl
  have hreads : Reads opened _ _ opened rest := Event.reads_text hmarkup hmark
    (hraw.symm ▸ Reference.expand_escape hzero content.toList)
  rw [hraw, if_neg hne, String.ofList_toList] at hreads
  refine ⟨_, hreads, fun more => ?_⟩
  have hnames : opened.map String.ofList ≠ [] := by
    simpa using hopened
  rw [Node.tokens, Node.tokens]
  simp [Event.tokens, Event.token, Event.openAfter, hcontent, hnames]

/-- White space outside the root leaves no trace. -/
theorem reads_blanks {cs : List Char} (hcs : ∀ c ∈ cs, isBlank c = true) (hmark : AtMark rest) :
    ReadsNodes [] (cs ++ rest) [] rest := by
  have hraw : ∀ c ∈ dropEndWhile isSpace (cs.dropWhile isSpace), isBlank c = true := fun c hc =>
    hcs c ((List.dropWhile_sublist isSpace).mem (mem_of_mem_dropEndWhile hc))
  have hplain : '&' ∉ dropEndWhile isSpace (cs.dropWhile isSpace) := fun hmem =>
    absurd (hraw '&' hmem) (by decide)
  have hmarkup : '<' ∉ cs := fun hmem => absurd (hcs '<' hmem) (by decide)
  refine ⟨_, Event.reads_text hmarkup hmark (Reference.expand_of_notMem hplain), fun more => ?_⟩
  rw [Node.tokens]
  split
  · rfl
  · have hblank : blank (String.ofList (dropEndWhile isSpace (cs.dropWhile isSpace))) = true := by
      rw [blank, String.toList_ofList]
      exact List.all_eq_true.mpr hraw
    simp [Event.tokens, Event.token, Event.openAfter, hblank]

/-- An element without content is read as one without children. -/
theorem reads_empty {name : String} {attributes : List (String × String)}
    (h : isName name = true) (hnames : ∀ entry ∈ attributes, isName entry.1 = true)
    (hnodup : (attributes.map (·.1)).Nodup) :
    ReadsNodes opened ('<' :: (Tag.write name attributes ++ '/' :: '>' :: rest))
      [.element name attributes []] rest := by
  refine ⟨_, Event.reads_markup (Event.next_empty h hnames hnodup rest), fun more => ?_⟩
  rw [Node.tokens, Node.tokens]
  rfl

/-- An element is read as its start, its children and its end. -/
theorem reads_element {name : String} {attributes : List (String × String)}
    (h : isName name = true) (hnames : ∀ entry ∈ attributes, isName entry.1 = true)
    (hnodup : (attributes.map (·.1)).Nodup) {children : List Node} {inner : List Char}
    (hchildren : ReadsNodes (name.toList :: opened)
      (inner ++ '<' :: '/' :: (name.toList ++ '>' :: rest)) children
      ('<' :: '/' :: (name.toList ++ '>' :: rest))) :
    ReadsNodes opened
      ('<' :: (Tag.write name attributes ++
        '>' :: (inner ++ '<' :: '/' :: (name.toList ++ '>' :: rest))))
      [.element name attributes children] rest := by
  obtain ⟨events, hinner, hspells⟩ := hchildren
  have hstart : Reads opened _ _ (name.toList :: opened) _ :=
    Event.reads_markup (Event.next_start h hnames hnodup
      (inner ++ '<' :: '/' :: (name.toList ++ '>' :: rest)))
  have hclose : Reads (name.toList :: opened) _ _ opened rest :=
    Event.reads_markup (Event.next_close h rest)
  refine ⟨_, hstart.trans (hinner.trans hclose), fun more => ?_⟩
  rw [List.map_cons, String.ofList_toList] at hspells
  rw [Node.tokens, Node.tokens, List.append_assoc, List.append_assoc]
  have hopening : Event.tokens (opened.map String.ofList)
      ([.start name attributes] ++ (events ++ ([.close] ++ more))) =
        .opening name attributes ::
          Event.tokens (name :: opened.map String.ofList) (events ++ ([.close] ++ more)) := rfl
  have hclosing : Event.tokens (name :: opened.map String.ofList) ([.close] ++ more) =
      .closing :: Event.tokens (opened.map String.ofList) more := rfl
  rw [hopening, hspells, hclosing]
  simp

/-- Written nodes are read back.  At the top of a document there is no text among them. -/
theorem reads_of_writes {spaces : Char → Bool}
    (hspaces : ∀ c, isSpace c = true → spaces c = true)
    (hzero : ∀ c, spaces c = true → c.toNat ≠ 0) {cs : List Char}
    (hwrites : Node.Writes spaces nodes cs) (hproper : Node.Proper nodes)
    (hplace : opened ≠ [] ∧ AtMark rest ∨ ∀ content, Node.text content ∉ nodes) :
    ReadsNodes opened (cs ++ rest) nodes rest := by
  induction hwrites generalizing opened rest with
  | nil => exact ReadsNodes.nil
  | @text content nodes cs hmark hrest ih =>
    rw [Node.Proper] at hproper
    obtain ⟨hopened, hend⟩ : opened ≠ [] ∧ AtMark rest :=
      hplace.resolve_right fun hnone => hnone content (List.mem_cons_self ..)
    have hbehind : AtMark (cs ++ rest) := by
      rcases hmark with rfl | ⟨body, rfl⟩
      · exact hend
      · exact Or.inr ⟨body ++ rest, rfl⟩
    rw [List.append_assoc]
    exact (reads_escape hspaces hzero hproper.1 hopened hbehind).append
      (ih hproper.2 (Or.inl ⟨hopened, hend⟩))
  | comment text htext hnodes ih =>
    rw [List.append_assoc]
    exact (reads_comment htext).append (ih hproper hplace)
  | @empty name attributes nodes cs hrest ih =>
    rw [Node.Proper] at hproper
    obtain ⟨hname, hnames, hnodup, -, hnodes⟩ := hproper
    have hbehind := ih hnodes (hplace.imp_right fun hnone content hmem =>
      hnone content (List.mem_cons_of_mem _ hmem))
    rw [List.cons_append, List.append_assoc]
    exact (reads_empty hname hnames hnodup).append hbehind
  | @element name attributes children nodes inner cs hchildren hrest ihchildren ihrest =>
    rw [Node.Proper] at hproper
    obtain ⟨hname, hnames, hnodup, hinside, hnodes⟩ := hproper
    have hbehind := ihrest hnodes (hplace.imp_right fun hnone content hmem =>
      hnone content (List.mem_cons_of_mem _ hmem))
    have hinner : ReadsNodes (name.toList :: opened)
        (inner ++ '<' :: '/' :: (name.toList ++ '>' :: (cs ++ rest))) children
        ('<' :: '/' :: (name.toList ++ '>' :: (cs ++ rest))) :=
      ihchildren hinside (Or.inl ⟨List.cons_ne_nil _ _, Or.inr ⟨_, rfl⟩⟩)
    have helement := (reads_element hname hnames hnodup hinner).append hbehind
    simpa using helement

/-- A margin leaves no trace. -/
theorem reads_margin {cs : List Char} (hcs : Margin cs) (hmark : AtMark rest) :
    ReadsNodes [] (cs ++ rest) [] rest := by
  induction hcs with
  | blanks hblank => exact reads_blanks hblank hmark
  | comment hblank htext hrest ih =>
    rw [List.append_assoc, List.append_assoc]
    exact (reads_blanks hblank (Or.inr ⟨_, rfl⟩)).append ((reads_comment htext).append ih)

/-- What stands in front of the root leaves no trace. -/
theorem reads_prolog {cs : List Char} (hcs : Prolog cs) (hmark : AtMark rest) :
    ReadsNodes [] (cs ++ rest) [] rest := by
  cases hcs with
  | margin hmargin => exact reads_margin hmargin hmark
  | declaration hmargin htext hrest =>
    rw [List.append_assoc, List.append_assoc]
    exact (reads_margin hmargin (Or.inr ⟨_, rfl⟩)).append
      ((reads_declaration htext).append (reads_margin hrest hmark))

end Parts

/-! ## Documents -/

/-- Every tree can be written. -/
theorem Node.exists_writes (spaces : Char → Bool) (nodes : List Node) :
    ∃ cs, Node.Writes spaces nodes cs ∧ AtMark cs := by
  induction nodes using Node.tokens.induct with
  | case1 => exact ⟨[], Node.Writes.nil, Or.inl rfl⟩
  | case2 content rest ih =>
    obtain ⟨cs, hrest, hmark⟩ := ih
    -- The comment keeps a text in front of this one apart.
    exact ⟨_, Node.Writes.comment [] (by decide) (Node.Writes.text hmark hrest), Or.inr ⟨_, rfl⟩⟩
  | case3 name attributes children rest ihchildren ihrest =>
    obtain ⟨inner, hchildren, -⟩ := ihchildren
    obtain ⟨cs, hrest, -⟩ := ihrest
    exact ⟨_, Node.Writes.element hchildren hrest, Or.inr ⟨_, rfl⟩⟩

/-- Written nodes without a text at the top start with markup. -/
theorem Node.Writes.exists_cons {spaces : Char → Bool} {nodes : List Node} {cs : List Char}
    (h : Node.Writes spaces nodes cs) (hne : nodes ≠ [])
    (hnone : ∀ content, Node.text content ∉ nodes) : ∃ body, cs = '<' :: body := by
  cases h with
  | nil => exact absurd rfl hne
  | text hmark hrest => exact absurd (List.mem_cons_self ..) (hnone _)
  | comment text htext hnodes => exact ⟨_, rfl⟩
  | empty hrest => exact ⟨_, rfl⟩
  | element hchildren hrest => exact ⟨_, rfl⟩

namespace Document

theorem withoutMark_of_head? {cs : List Char} (h : cs.head? ≠ some '\uFEFF') :
    withoutMark cs = cs := by
  rw [withoutMark.eq_def]
  split
  · exact (h rfl).elim
  · rfl

theorem withoutMark_of_blanks {cs : List Char} (hcs : ∀ c ∈ cs, isBlank c = true)
    (body : List Char) : withoutMark (cs ++ '<' :: body) = cs ++ '<' :: body := by
  cases cs with
  | nil => rfl
  | cons c rest =>
    have hc : c ≠ '\uFEFF' := by
      rintro rfl
      exact absurd (hcs _ (List.mem_cons_self ..)) (by decide)
    exact withoutMark_of_head? fun hmark => hc (Option.some.inj hmark)

theorem withoutMark_of_margin {cs : List Char} (hcs : Margin cs) (body : List Char) :
    withoutMark (cs ++ '<' :: body) = cs ++ '<' :: body := by
  cases hcs with
  | blanks hblank => exact withoutMark_of_blanks hblank body
  | comment hblank htext hrest =>
    rw [List.append_assoc]
    exact withoutMark_of_blanks hblank _

/-- What stands in front of the root does not start with a byte order mark. -/
theorem withoutMark_of_prolog {cs : List Char} (hcs : Prolog cs) (body : List Char) :
    withoutMark (cs ++ '<' :: body) = cs ++ '<' :: body := by
  cases hcs with
  | margin hmargin => exact withoutMark_of_margin hmargin body
  | declaration hmargin htext hrest =>
    rw [List.append_assoc]
    exact withoutMark_of_margin hmargin _

/-- A text whose events spell a document is this document. -/
theorem ofText_of_spells {text : List Char} {document : Document} {events : List Event}
    (hscan : Event.scan (withoutMark text) = (events, none)) (h : Spells events document) :
    ofText text = .ok document := by
  rw [ofText, hscan]
  exact ofEvents_of_spells h

theorem ofText_of_reads {text : List Char} {root : Element} (hmark : withoutMark text = text)
    (h : ReadsNodes [] text [root.toNode] []) : ofText text = .ok ⟨root⟩ := by
  obtain ⟨events, hreads, hspells⟩ := h
  have hscan : Event.scan text = (events, none) := by
    have hend : Event.scanFrom [] [] = ([], none) := Event.scanFrom_of_nil rfl rfl rfl
    rw [Event.scan, hreads, hend, List.append_nil]
  have hevents : Spells events ⟨root⟩ := by
    have hall := hspells []
    rw [List.append_nil, Event.tokens, List.append_nil] at hall
    exact hall
  rw [← hmark] at hscan
  exact ofText_of_spells hscan hevents

/-- Every proper tree can be written, and it is read back from whatever way it is written in.
`spaces` may be the white space of XML, that of Unicode or what lies between them. -/
theorem parse_writes {spaces : Char → Bool} (hspaces : ∀ c, isSpace c = true → spaces c = true)
    (hzero : ∀ c, spaces c = true → c.toNat ≠ 0) {root : Element}
    (hproper : Node.Proper [root.toNode]) :
    (∃ cs, Document.Writes spaces root cs) ∧
      ∀ cs, Document.Writes spaces root cs → parse (Utf8.encode cs) = .ok ⟨root⟩ := by
  have hnone : ∀ content, Node.text content ∉ [root.toNode] := fun content hmem => by
    rw [List.mem_singleton, Element.toNode] at hmem
    cases hmem
  constructor
  · obtain ⟨cs, hroot, -⟩ := Node.exists_writes spaces [root.toNode]
    exact ⟨_, Writes.intro (Prolog.margin margin_nil) hroot margin_nil⟩
  · rintro _ ⟨hfront, hroot, hback⟩
    rename_i front cs back
    obtain ⟨body, rfl⟩ := hroot.exists_cons (List.cons_ne_nil _ _) hnone
    have hreads : ReadsNodes [] (front ++ ('<' :: body ++ back)) [root.toNode] [] := by
      have hbehind : ReadsNodes [] back [] [] := by
        have hmargin := reads_margin hback (Or.inl rfl)
        rwa [List.append_nil] at hmargin
      have hinside : ReadsNodes [] ('<' :: body ++ back) [root.toNode] back :=
        reads_of_writes hspaces hzero hroot hproper (Or.inr hnone)
      exact (reads_prolog hfront (Or.inr ⟨_, rfl⟩)).append (hinside.append hbehind)
    rw [parse, Utf8.decode_encode]
    exact ofText_of_reads (withoutMark_of_prolog hfront (body ++ back)) hreads

/-- A note with marks in its attribute and texts, two texts side by side and an element without
children. -/
def note : Element :=
  ⟨"x:note", [("to", "a<b & \"c\"")],
    [.text "fish & ", .text "chips", .element "br" [] [], .element "p" [] [.text " "]]⟩

/-- A way to write the note. -/
def noteText : List Char :=
  ("<?xml version=\"1.0\"?>\n<!-- kept -->\n" ++
    "<x:note to=\"a&lt;b &amp; &quot;c&quot;\">fish&#32;&amp;&#32;<!---->chips<br/>" ++
    "<p>&#32;</p></x:note>\n").toList

theorem parse_writes_note :
    (∀ c, isSpace c = true → isBlank c = true) ∧ (∀ c, isBlank c = true → c.toNat ≠ 0) ∧
      Node.Proper [note.toNode] ∧ Document.Writes isBlank note noteText ∧
      parse (Utf8.encode noteText) = .ok ⟨note⟩ := by
  have hspaces : ∀ c, isSpace c = true → isBlank c = true := by
    intro c hc
    rcases Tag.isSpace_iff.mp hc with rfl | rfl | rfl | rfl <;> rfl
  have hzero : ∀ c, isBlank c = true → c.toNat ≠ 0 := by
    intro c hc hzero
    simp [isBlank, hzero] at hc
  have hproper : Node.Proper [note.toNode] := by
    simp only [note, Element.toNode, Node.Proper, List.forall_mem_cons, List.not_mem_nil,
      false_implies, implies_true]
    decide +kernel
  have hline : ∀ c ∈ ['\n'], isBlank c = true := by
    simp [isBlank]
  have hversion : ¬['?', '>'] <:+: " version=\"1.0\"".toList := by
    decide +kernel
  have hkept : ¬['-', '-', '>'] <:+: " kept ".toList := by
    decide +kernel
  have hfront := Prolog.declaration margin_nil hversion
    (Margin.comment hline hkept (Margin.blanks hline))
  have hbehind : Node.Writes isBlank [.element "br" [] [], .element "p" [] [.text " "]] _ :=
    Node.Writes.empty (Node.Writes.element (Node.Writes.text (Or.inl rfl) Node.Writes.nil)
      Node.Writes.nil)
  have hchildren : Node.Writes isBlank note.children _ :=
    Node.Writes.text (Or.inr ⟨_, rfl⟩) (Node.Writes.comment [] (by decide)
      (Node.Writes.text (Or.inr ⟨_, rfl⟩) hbehind))
  have hroot : Node.Writes isBlank [note.toNode] _ :=
    Node.Writes.element hchildren Node.Writes.nil
  have hdocument := Document.Writes.intro hfront hroot (Margin.blanks hline)
  have hwrites : ∃ cs, Document.Writes isBlank note cs ∧ cs = noteText :=
    ⟨_, hdocument, by decide +kernel⟩
  obtain ⟨cs, hwrites, htext⟩ := hwrites
  rw [htext] at hwrites
  exact ⟨hspaces, hzero, hproper, hwrites,
    (parse_writes hspaces hzero hproper).2 noteText hwrites⟩

end Document

end FormFetch.Markup
