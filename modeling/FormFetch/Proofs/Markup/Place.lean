import FormFetch.Proofs.Markup.Cut

/-!
# Places in a document

Where an element stands: in the tree, in the events that spell the tree and in the text that the
events are read from.

* `Path` leads from the root of a tree to one of its elements, and `Path.tokens_plug` says what is
  spelled around the element.
* `exists_of_tokens_opening` and `exists_of_tokens_closing` find an opening and its closing among
  events, and `Scanned.exists_piece` finds in a text the markup that gives an event.
* `TagAt` is the tag of an element in the text, and `exists_tagAt` finds the tag of every element
  of the tree.
-/

namespace FormFetch.Markup

open FormFetch.Text

/-! ## Places in a tree -/

theorem Element.toNode_injective {e e' : Element} (h : e.toNode = e'.toNode) : e = e' := by
  obtain ⟨name, attributes, children⟩ := e
  obtain ⟨name', attributes', children'⟩ := e'
  cases h
  rfl

/-- The way from an element down to one inside of it. -/
inductive Path where
  /-- To the element itself. -/
  | here
  /-- Into a child element; `before` and `after` are the nodes around the child. -/
  | child (name : String) (attributes : List (String × String)) (before after : List Node)
      (path : Path)

namespace Path

/-- The element from which the path leads to another. -/
def plug : Path → Element → Element
  | .here, e => e
  | .child name attributes before after path, e =>
    ⟨name, attributes, before ++ (path.plug e).toNode :: after⟩

/-- What is spelled in front of the element at the end of the path. -/
def opening : Path → List Token
  | .here => []
  | .child name attributes before _ path =>
    .opening name attributes :: (Node.tokens before ++ path.opening)

/-- What is spelled behind the element at the end of the path. -/
def closing : Path → List Token
  | .here => []
  | .child _ _ _ after path => path.closing ++ (Node.tokens after ++ [.closing])

theorem tokens_plug (path : Path) (e : Element) :
    Node.tokens [(path.plug e).toNode] =
      path.opening ++ (Node.tokens [e.toNode] ++ path.closing) := by
  induction path with
  | here => simp [plug, opening, closing]
  | child name attributes before after path ih =>
    have hchildren : Node.tokens (before ++ (path.plug e).toNode :: after) =
        Node.tokens before ++ (Node.tokens [(path.plug e).toNode] ++ Node.tokens after) := by
      rw [Node.tokens_append, ← Node.tokens_append [(path.plug e).toNode], List.singleton_append]
    rw [plug, Document.tokens_toNode, hchildren, ih]
    simp [opening, closing]

theorem plug_injective {path : Path} {e e' : Element} (h : path.plug e = path.plug e') :
    e = e' := by
  induction path with
  | here => exact h
  | child name attributes before after path ih =>
    simp only [plug, Element.mk.injEq, List.append_cancel_left_eq, List.cons.injEq, true_and,
      and_true] at h
    exact ih (Element.toNode_injective h)

end Path

/-! ## Places among events -/

namespace Event

/-- An event that adds characters or nothing to the innermost open element. -/
inductive IsCharacters : Event → Prop
  | text (content : String) : IsCharacters (.text content)
  | verbatim (content : String) : IsCharacters (.verbatim content)
  | aside : IsCharacters .aside

variable {opened : List String} {events : List Event} {before after : List Token}

theorem tokens_append (opened : List String) (events more : List Event) :
    tokens opened (events ++ more) =
      tokens opened events ++ tokens (openNames opened events) more := by
  induction events generalizing opened with
  | nil => rfl
  | cons e rest ih =>
    rw [List.cons_append, tokens, tokens, ih, List.append_assoc]
    rfl

/-- An opening is spelled by the start of an element or by an element without content. -/
theorem token_eq_opening {e : Event} {tail : List Token} {name : String}
    {attributes : List (String × String)}
    (h : token opened e = before ++ .opening name attributes :: tail) :
    before = [] ∧ (e = .start name attributes ∧ tail = [] ∨
      e = .empty name attributes ∧ tail = [.closing]) := by
  have hmem : Token.opening name attributes ∈ token opened e := by
    simp [h]
  cases e with
  | start name' attributes' =>
    cases before with
    | nil =>
      cases h
      exact ⟨rfl, Or.inl ⟨rfl, rfl⟩⟩
    | cons t before => simp [token] at h
  | empty name' attributes' =>
    rcases before with _ | ⟨t, _ | ⟨t', before⟩⟩
    · cases h
      exact ⟨rfl, Or.inr ⟨rfl, rfl⟩⟩
    · simp [token] at h
    · simp [token] at h
  | text content | verbatim content =>
    rw [token] at hmem
    split at hmem <;> simp at hmem
  | close | aside => simp [token] at hmem

/-- Among events that spell an opening is one that spells it, and the events in front of it spell
what stands in front of the opening. -/
theorem exists_of_tokens_opening {name : String} {attributes : List (String × String)}
    (h : tokens opened events = before ++ .opening name attributes :: after) :
    ∃ read e later, events = read ++ e :: later ∧ tokens opened read = before ∧
      (e = .start name attributes ∧ tokens (openNames opened (read ++ [e])) later = after ∨
        e = .empty name attributes ∧
          .closing :: tokens (openNames opened (read ++ [e])) later = after) := by
  induction events generalizing opened before with
  | nil => cases before <;> cases h
  | cons e rest ih =>
    rw [tokens] at h
    rcases exists_of_append_eq_append_cons h with ⟨tail, htoken, rfl⟩ | ⟨head, rfl, hrest⟩
    · obtain ⟨rfl, ⟨rfl, rfl⟩ | ⟨rfl, rfl⟩⟩ := token_eq_opening htoken
      · exact ⟨[], _, rest, rfl, rfl, Or.inl ⟨rfl, rfl⟩⟩
      · exact ⟨[], _, rest, rfl, rfl, Or.inr ⟨rfl, rfl⟩⟩
    · obtain ⟨read, e', later, rfl, hread, hplace⟩ := ih hrest
      exact ⟨e :: read, e', later, rfl, by rw [tokens, hread], hplace⟩

/-- An event that spells only texts adds characters or nothing to the innermost element. -/
theorem isCharacters_of_token {e : Event}
    (h : ∀ t ∈ token opened e, ∃ content, t = Token.text content) : IsCharacters e := by
  cases e with
  | text content => exact .text content
  | verbatim content => exact .verbatim content
  | aside => exact .aside
  | start | empty | close =>
    obtain ⟨content, hcontent⟩ := h _ (List.mem_cons_self ..)
    cases hcontent

theorem IsCharacters.openAfter_eq {e : Event} (h : IsCharacters e) : openAfter opened e = opened := by
  cases h <;> rfl

/-- Behind texts a closing is spelled by the end of an element. -/
theorem token_eq_closing {e : Event} {texts tail : List Token}
    (h : token opened e = texts ++ .closing :: tail)
    (htexts : ∀ t ∈ texts, ∃ content, t = Token.text content) :
    texts = [] ∧ e = .close ∧ tail = [] := by
  have hmem : Token.closing ∈ token opened e := by
    simp [h]
  cases e with
  | close =>
    cases texts with
    | nil =>
      cases h
      exact ⟨rfl, rfl, rfl⟩
    | cons t texts => simp [token] at h
  | empty name attributes =>
    cases texts with
    | nil => cases h
    | cons t texts =>
      obtain ⟨content, rfl⟩ := htexts t (List.mem_cons_self ..)
      cases h
  | text content | verbatim content =>
    rw [token] at hmem
    split at hmem <;> simp at hmem
  | start | aside => simp [token] at hmem

/-- Behind texts a closing is spelled by the end of an element, and the events in front of it only
add characters. -/
theorem exists_of_tokens_closing {texts : List Token}
    (h : tokens opened events = texts ++ .closing :: after)
    (htexts : ∀ t ∈ texts, ∃ content, t = Token.text content) :
    ∃ content later, events = content ++ .close :: later ∧ (∀ e ∈ content, IsCharacters e) ∧
      tokens opened.tail later = after := by
  induction events generalizing texts with
  | nil => cases texts <;> cases h
  | cons e rest ih =>
    rw [tokens] at h
    rcases exists_of_append_eq_append_cons h with ⟨tail, htoken, rfl⟩ | ⟨head, rfl, hrest⟩
    · obtain ⟨rfl, rfl, rfl⟩ := token_eq_closing htoken htexts
      exact ⟨[], rest, rfl, by simp, rfl⟩
    · have hcharacters : IsCharacters e :=
        isCharacters_of_token fun t ht => htexts t (List.mem_append_left _ ht)
      rw [hcharacters.openAfter_eq] at hrest
      obtain ⟨content, later, rfl, hcontent, hlater⟩ :=
        ih hrest fun t ht => htexts t (List.mem_append_right _ ht)
      exact ⟨e :: content, later, rfl, List.forall_mem_cons.mpr ⟨hcharacters, hcontent⟩, hlater⟩

end Event

/-! ## Places in a text -/

namespace Event

section Scans

variable {opened : List (List Char)} {input : List Char} {events read later : List Event}

/-- The scan of a text gives what its pieces are. -/
theorem Scanned.scanFrom_eq (h : Scanned opened input events) :
    scanFrom opened input = (events, none) := by
  induction h with
  | @run opened cs texts hmark hrun =>
    refine scanFrom_of_nil rfl hrun ?_
    exact List.dropWhile_eq_nil_iff.mpr (forall_bne_of_notMem (mark_notMem_dropWhile hmark))
  | @piece opened lead inside texts later step hlead hrun hnext hlater ih =>
    have hreads := reads_piece hlead hrun hnext step.rest
    rw [Reads, ih] at hreads
    rw [hreads, List.append_assoc]
    rfl

/-- Where the scan of a text gives an event other than a text run, there is a piece of markup. What
is read up to it and from it is the same whatever is behind. -/
theorem Scanned.exists_piece {e : Event} (h : Scanned opened input (read ++ e :: later))
    (he : ¬IsText e) :
    ∃ front rest opened', input = front ++ '>' :: rest ∧ Scanned opened' rest later ∧
      opened'.map String.ofList = openNames (opened.map String.ofList) (read ++ [e]) ∧
      ∀ more, Reads opened (front ++ '>' :: more) (read ++ [e]) opened' more := by
  generalize hevents : read ++ e :: later = events at h
  induction h generalizing read with
  | run hmark hrun => exact absurd (isText_of_run hrun e (by simp [← hevents])) he
  | @piece opened lead inside texts later' step hlead hrun hnext hlater ih =>
    rcases exists_of_append_eq_append_cons hevents.symm with ⟨tail, rfl, -⟩ | ⟨head, rfl, hrest⟩
    · exact absurd (isText_of_run hrun e (by simp)) he
    · have hreads := reads_piece hlead hrun hnext
      have hnames := openNames_of_piece hrun hnext
      cases head with
      | nil =>
        obtain ⟨rfl, rfl⟩ := List.cons.inj hrest
        rw [List.append_nil]
        refine ⟨lead ++ '<' :: inside, step.rest, step.opened, by simp, hlater, hnames,
          fun more => ?_⟩
        rw [List.append_assoc, List.cons_append]
        exact hreads more
      | cons first head =>
        obtain ⟨rfl, hbehind⟩ := List.cons.inj hrest
        obtain ⟨front, rest, opened', hinput, hscanned, hopened, hmore⟩ := ih hbehind.symm
        have hsplit : texts ++ step.event :: head ++ [e] =
            texts ++ [step.event] ++ (head ++ [e]) := by
          simp
        refine ⟨lead ++ '<' :: (inside ++ '>' :: front), rest, opened', ?_, hscanned, ?_,
          fun more => ?_⟩
        · rw [hinput]
          simp
        · rw [hopened, hnames, openNames, openNames, ← List.foldl_append, hsplit]
          rfl
        · have hboth := (hreads (front ++ '>' :: more)).trans (hmore more)
          rw [hsplit]
          simpa using hboth

end Scans

end Event

namespace Document

/-- The text `front` goes up to the end of the tag of the element at `path`: what is read from it
spells what stands in front of the element in the tree, and then the tag.  `event` is the event of
the tag, and the elements `opened` are open behind it. -/
def TagAt (path : Path) (front : List Char) (event : Event) (opened : List (List Char)) : Prop :=
  ∃ read, Event.tokens [] read = path.opening ∧
    opened.map String.ofList = Event.openNames [] (read ++ [event]) ∧
    ∀ more, Event.Reads [] (withoutMark (front ++ more)) (read ++ [event]) opened more

variable {text : List Char} {document : Document} {path : Path} {e : Element}

/-- What closes an element that is opened at once has no children in front of it. -/
theorem eq_nil_of_closing {nodes : List Node} {behind after : List Token}
    (h : Token.closing :: behind = Node.tokens nodes ++ after) : nodes = [] := by
  cases nodes with
  | nil => rfl
  | cons node rest =>
    cases node <;>
    · rw [Node.tokens] at h
      cases h

/-- What a text spells. -/
theorem exists_of_ofText (h : ofText text = .ok document) :
    ∃ events, Event.Scanned [] (withoutMark text) events ∧ Spells events document := by
  obtain ⟨events, hscan, hbuilt⟩ := ofText_eq_ok_iff.mp h
  have hscanned := Event.scanned_of_scanFrom hscan
  refine ⟨events, hscanned, spells_of_ofEvents hscanned.matched ?_⟩
  rw [ofEvents_of_foldlM hbuilt, Builder.finish_eq_ok_iff]

/-- Every element has a tag in the text. -/
theorem exists_tagAt (h : ofText text = .ok document) (hpath : document.root = path.plug e) :
    ∃ front rest event opened later, text = front ++ rest ∧ TagAt path front event opened ∧
      Event.Scanned opened rest later ∧
      (event = .start e.name e.attributes ∧
          Event.tokens (opened.map String.ofList) later =
            Node.tokens e.children ++ .closing :: path.closing ∨
        event = .empty e.name e.attributes ∧ e.children = []) := by
  obtain ⟨events, hscanned, hspells⟩ := exists_of_ofText h
  rw [Spells, hpath, Path.tokens_plug, tokens_toNode, List.cons_append, List.append_assoc,
    List.singleton_append] at hspells
  obtain ⟨read, event, later, rfl, hread, hplace⟩ := Event.exists_of_tokens_opening hspells
  have hmarkup : ¬Event.IsText event := by
    rintro ⟨content, rfl⟩
    rcases hplace with ⟨hstart, -⟩ | ⟨hempty, -⟩
    · cases hstart
    · cases hempty
  obtain ⟨front, rest, opened, hinput, hlater, hopened, hreads⟩ := hscanned.exists_piece hmarkup
  obtain ⟨front', hfront, rfl, hmark⟩ := exists_withoutMark hinput
  refine ⟨front' ++ ['>'], rest, event, opened, later, by simp, ⟨read, hread, hopened,
    fun more => ?_⟩, hlater, ?_⟩
  · rw [List.append_assoc, List.singleton_append, hmark]
    exact hreads more
  · rcases hplace with ⟨hstart, htokens⟩ | ⟨hempty, htokens⟩
    · rw [List.map_nil] at hopened
      exact Or.inl ⟨hstart, hopened ▸ htokens⟩
    · exact Or.inr ⟨hempty, eq_nil_of_closing htokens⟩

end Document

end FormFetch.Markup
