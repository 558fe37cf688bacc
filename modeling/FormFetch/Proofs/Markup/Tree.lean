import FormFetch.Markup.Document

/-!
# Trees from events

A document is built from the events that spell it: after what does not count is left out,
they are its elements, each between its start and its end, with the children in their order.

* `Node.tokens` is what a tree is spelled with, and `Event.tokens` is what events spell.
* `foldlM_step` says that the builder depends on the tokens alone, and `foldlM_put_tokens`
  that it builds the tree that they spell.
* `ofEvents_of_spells` is the result.
-/

namespace FormFetch.Markup

open FormFetch.Text

/-! ## Tokens -/

/-- What a tree is spelled with. -/
inductive Token where
  | opening (name : String) (attributes : List (String × String))
  | text (content : String)
  | closing
  deriving DecidableEq, Repr

/-- The tokens of nodes: each element stands between its two tokens, with its children in their
order. -/
def Node.tokens : List Node → List Token
  | [] => []
  | .text content :: rest => .text content :: tokens rest
  | .element name attributes children :: rest =>
    .opening name attributes :: (tokens children ++ .closing :: tokens rest)

theorem Node.tokens_append (nodes more : List Node) :
    Node.tokens (nodes ++ more) = Node.tokens nodes ++ Node.tokens more := by
  induction nodes with
  | nil => rw [Node.tokens, List.nil_append, List.nil_append]
  | cons node rest ih =>
    cases node with
    | text content => rw [List.cons_append, Node.tokens, Node.tokens, ih, List.cons_append]
    | element name attributes children =>
      rw [List.cons_append, Node.tokens, Node.tokens, ih, List.cons_append, List.append_assoc,
        List.cons_append]

namespace Event

/-- The names of the elements that are open after an event, innermost first. -/
def openAfter (opened : List String) : Event → List String
  | .start name _ => name :: opened
  | .close => opened.tail
  | .empty .. | .text _ | .verbatim _ | .aside => opened

/-- What an event spells.  Asides and empty texts do not count, nor do blank texts outside the
root. -/
def token (opened : List String) : Event → List Token
  | .start name attributes => [.opening name attributes]
  | .empty name attributes => [.opening name attributes, .closing]
  | .close => [.closing]
  | .text content | .verbatim content =>
    if content = "" ∨ opened = [] ∧ blank content then [] else [.text content]
  | .aside => []

/-- What events spell. -/
def tokens (opened : List String) : List Event → List Token
  | [] => []
  | e :: rest => token opened e ++ tokens (openAfter opened e) rest

/-- No empty text is spelled. -/
theorem text_empty_notMem_tokens (opened : List String) (events : List Event) :
    Token.text "" ∉ tokens opened events := by
  induction events generalizing opened with
  | nil => exact List.not_mem_nil
  | cons e rest ih =>
    rw [tokens, List.mem_append, not_or]
    refine ⟨?_, ih _⟩
    cases e with
    | text content | verbatim content =>
      rw [token]
      split
      · exact List.not_mem_nil
      · rename_i hcontent
        rw [List.mem_singleton, Token.text.injEq]
        exact fun heq => hcontent (Or.inl heq.symm)
    | start | empty | close | aside => simp [token]

end Event

namespace Document

/-- The tokens of an element. -/
theorem tokens_toNode (e : Element) :
    Node.tokens [e.toNode] =
      .opening e.name e.attributes :: (Node.tokens e.children ++ [.closing]) := by
  rw [Element.toNode, Node.tokens, Node.tokens]

/-- Events spell a document. -/
def Spells (events : List Event) (document : Document) : Prop :=
  Event.tokens [] events = Node.tokens [document.root.toNode]

/-! ## Building -/

namespace Builder

/-- The names of the open elements, innermost first. -/
def names (b : Builder) : List String :=
  b.opened.map (·.name)

theorem names_eq_nil {b : Builder} : b.names = [] ↔ b.opened = [] :=
  List.map_eq_nil_iff

/-- One token more. -/
def put (b : Builder) : Token → Except DocumentFault Builder
  | .opening name attributes => b.step (.start name attributes)
  | .text content => b.addText content
  | .closing => b.step .close

variable {b b' : Builder}

/-- A text that does not count changes nothing. -/
theorem addText_of_token_nil {content : String}
    (h : content = "" ∨ b.names = [] ∧ blank content = true) : b.addText content = .ok b := by
  unfold addText
  cases hopened : b.opened with
  | nil =>
    have hblank : blank content = true := by
      rcases h with rfl | ⟨-, hblank⟩
      · rfl
      · exact hblank
    exact if_pos hblank
  | cons parent outer =>
    have hcontent : content = "" := by
      rcases h with hempty | ⟨hnames, -⟩
      · exact hempty
      · rw [names_eq_nil, hopened] at hnames
        cases hnames
    exact if_pos hcontent

/-- What attaching an element does. -/
theorem attach_cases (b : Builder) (e : Element) :
    (∃ parent outer, b.opened = parent :: outer ∧
      b.attach e = .ok { b with opened := push parent e.toNode :: outer }) ∨
    (b.opened = [] ∧ b.root = none ∧ b.attach e = .ok { b with root := some e }) ∨
    (b.opened = [] ∧ b.root.isSome = true ∧ b.attach e = .error (.secondRoot e.name)) := by
  unfold attach
  cases hopened : b.opened with
  | cons parent outer => exact Or.inl ⟨parent, outer, rfl, rfl⟩
  | nil =>
    cases hroot : b.root with
    | none => exact Or.inr (Or.inl ⟨rfl, rfl, rfl⟩)
    | some root => exact Or.inr (Or.inr ⟨rfl, rfl, rfl⟩)

/-- What the start of an element does. -/
theorem step_start_cases (b : Builder) (name : String) (attributes : List (String × String)) :
    ((b.opened = [] → b.root = none) ∧
      b.step (.start name attributes) = .ok { b with opened := ⟨name, attributes, []⟩ :: b.opened }) ∨
    (b.opened = [] ∧ b.root.isSome = true ∧
      b.step (.start name attributes) = .error (.secondRoot name)) := by
  rw [step]
  cases hopened : b.opened with
  | cons parent outer => exact Or.inl ⟨fun h => (List.cons_ne_nil _ _ h).elim, rfl⟩
  | nil =>
    cases hroot : b.root with
    | none => exact Or.inl ⟨fun _ => rfl, rfl⟩
    | some root => exact Or.inr ⟨rfl, rfl, rfl⟩

/-- An element without content is an element that is closed at once. -/
theorem step_empty (b : Builder) (name : String) (attributes : List (String × String)) :
    b.step (.empty name attributes) =
      (b.step (.start name attributes)).bind fun opened => opened.step .close := by
  obtain ⟨opened, root⟩ := b
  rcases opened with _ | ⟨parent, outer⟩
  · rcases root with _ | root <;> rfl
  · rfl

/-- An event does what its tokens do. -/
theorem step_eq (b : Builder) (e : Event) : b.step e = (Event.token b.names e).foldlM put b := by
  cases e with
  | start name attributes =>
    rw [Event.token, List.foldlM_cons]
    exact (bind_pure _).symm
  | empty name attributes =>
    rw [step_empty, Event.token, List.foldlM_cons]
    refine congrArg (Except.bind _) (funext fun opened => ?_)
    exact (bind_pure (opened.step .close)).symm
  | close => exact (bind_pure (b.step .close)).symm
  | text content | verbatim content =>
    rw [Event.token]
    split
    · rename_i hnothing
      exact addText_of_token_nil hnothing
    · exact (bind_pure (b.addText content)).symm
  | aside => rfl

theorem names_of_addText {content : String} (h : b.addText content = .ok b') :
    b'.names = b.names := by
  unfold addText at h
  split at h
  · rename_i parent outer hopened
    split at h
    · cases h
      rfl
    · cases h
      simp [names, hopened, push]
  · split at h
    · cases h
      rfl
    · cases h

theorem names_of_attach {e : Element} (h : b.attach e = .ok b') : b'.names = b.names := by
  rcases attach_cases b e with ⟨parent, outer, hopened, hattach⟩ | ⟨-, -, hattach⟩ | ⟨-, -, hattach⟩
  · rw [hattach] at h
    cases h
    simp [names, hopened, push]
  · rw [hattach] at h
    cases h
    rfl
  · rw [hattach] at h
    cases h

theorem names_of_step {e : Event} (h : b.step e = .ok b') :
    b'.names = Event.openAfter b.names e := by
  cases e with
  | start name attributes =>
    rcases step_start_cases b name attributes with ⟨-, hstep⟩ | ⟨-, -, hstep⟩
    · rw [hstep] at h
      cases h
      rfl
    · rw [hstep] at h
      cases h
  | empty name attributes => exact names_of_attach h
  | close =>
    rw [step] at h
    split at h
    · rename_i hopened
      cases h
      simp [names, hopened, Event.openAfter]
    · rename_i e outer hopened
      rw [names_of_attach h]
      simp [names, hopened, Event.openAfter]
  | text content | verbatim content => exact names_of_addText h
  | aside =>
    cases h
    rfl

/-- A run of the builder, by its first event. -/
theorem exists_of_foldlM_cons {e : Event} {rest : List Event}
    (h : (e :: rest).foldlM step b = .ok b') :
    ∃ middle, b.step e = .ok middle ∧ rest.foldlM step middle = .ok b' := by
  rw [List.foldlM_cons] at h
  cases hstep : b.step e with
  | error fault =>
    rw [hstep] at h
    cases h
  | ok middle =>
    rw [hstep] at h
    exact ⟨middle, rfl, h⟩

/-- A run of the builder, in two parts. -/
theorem exists_of_foldlM_append {events more : List Event}
    (h : (events ++ more).foldlM step b = .ok b') :
    ∃ middle, events.foldlM step b = .ok middle ∧ more.foldlM step middle = .ok b' := by
  rw [List.foldlM_append] at h
  cases hfirst : events.foldlM step b with
  | error fault =>
    rw [hfirst] at h
    cases h
  | ok middle =>
    rw [hfirst] at h
    exact ⟨middle, rfl, h⟩

theorem finish_eq_ok_iff {document : Document} :
    b.finish = .ok document ↔ b = ⟨[], some document.root⟩ := by
  obtain ⟨opened, root⟩ := b
  cases opened with
  | cons e outer =>
    constructor <;> intro h <;> cases h
  | nil =>
    cases root with
    | none => constructor <;> intro h <;> cases h
    | some root =>
      constructor <;> intro h <;> cases h <;> rfl

/-- The builder depends on the tokens of the events alone. -/
theorem foldlM_step (b : Builder) (events : List Event) :
    events.foldlM step b = (Event.tokens b.names events).foldlM put b := by
  induction events generalizing b with
  | nil => rfl
  | cons e rest ih =>
    rw [Event.tokens, List.foldlM_append, List.foldlM_cons, ← step_eq]
    cases hstep : b.step e with
    | error fault => rfl
    | ok b' =>
      rw [← names_of_step hstep]
      exact ih b'

/-- Inside an element the tokens of nodes add these nodes. -/
theorem foldlM_put_tokens (nodes : List Node) (root : Option Element) (parent : Element)
    (outer : List Element) (h : Token.text "" ∉ Node.tokens nodes) :
    (Node.tokens nodes).foldlM put ⟨parent :: outer, root⟩ =
      .ok ⟨{ parent with children := nodes.reverse ++ parent.children } :: outer, root⟩ := by
  fun_induction Node.tokens nodes generalizing parent outer with
  | case1 => rfl
  | case2 content rest ih =>
    rw [List.mem_cons, not_or] at h
    have hcontent : content ≠ "" := fun heq => h.1 (heq ▸ rfl)
    have hput : put ⟨parent :: outer, root⟩ (.text content) =
        .ok ⟨push parent (.text content) :: outer, root⟩ := if_neg hcontent
    have hrest := ih (push parent (.text content)) outer h.2
    rw [List.foldlM_cons, hput]
    refine hrest.trans ?_
    simp [push]
  | case3 name attributes children rest ihc ihr =>
    simp only [List.mem_cons, List.mem_append, not_or] at h
    obtain ⟨-, hchildren, -, hrest⟩ := h
    have hopening : put ⟨parent :: outer, root⟩ (.opening name attributes) =
        .ok ⟨⟨name, attributes, []⟩ :: parent :: outer, root⟩ := rfl
    have hinside := ihc ⟨name, attributes, []⟩ (parent :: outer) hchildren
    have hclosing : put ⟨⟨name, attributes, children.reverse ++ []⟩ :: parent :: outer, root⟩
        .closing = .ok ⟨push parent (.element name attributes children) :: outer, root⟩ := by
      simp [put, step, attach, close, Element.toNode]
    have hbehind := ihr (push parent (.element name attributes children)) outer hrest
    calc (Token.opening name attributes ::
          (Node.tokens children ++ .closing :: Node.tokens rest)).foldlM put
            ⟨parent :: outer, root⟩
        = ((Node.tokens children).foldlM put ⟨⟨name, attributes, []⟩ :: parent :: outer, root⟩).bind
            ((Token.closing :: Node.tokens rest).foldlM put) := by
          rw [List.foldlM_cons, hopening]
          exact List.foldlM_append
      _ = (Node.tokens rest).foldlM put
            ⟨push parent (.element name attributes children) :: outer, root⟩ := by
          rw [hinside, Except.bind, List.foldlM_cons, hclosing]
          rfl
      _ = _ := by
          rw [hbehind]
          simp [push]

end Builder

theorem ofEvents_of_foldlM {events : List Event} {b : Builder}
    (h : events.foldlM Builder.step {} = .ok b) : ofEvents events = b.finish := by
  rw [ofEvents, h]
  rfl

/-- Events that spell a document are built into it. -/
theorem ofEvents_of_spells {events : List Event} {document : Document}
    (h : Spells events document) : ofEvents events = .ok document := by
  obtain ⟨⟨name, attributes, children⟩⟩ := document
  rw [Spells, tokens_toNode] at h
  have htexts : Token.text "" ∉ Node.tokens children := by
    have hnone := Event.text_empty_notMem_tokens [] events
    rw [h] at hnone
    simp only [List.mem_cons, List.mem_append, not_or] at hnone
    exact hnone.2.1
  have hinside := Builder.foldlM_put_tokens children none ⟨name, attributes, []⟩ [] htexts
  have hclosing : Builder.put ⟨[⟨name, attributes, children.reverse ++ []⟩], none⟩ .closing =
      .ok ⟨[], some ⟨name, attributes, children⟩⟩ := by
    simp [Builder.put, Builder.step, Builder.attach, Builder.close]
  have hbuilt : events.foldlM Builder.step {} = .ok ⟨[], some ⟨name, attributes, children⟩⟩ :=
    calc events.foldlM Builder.step {}
        = (Token.opening name attributes :: (Node.tokens children ++ [.closing])).foldlM
            Builder.put {} := by
          rw [← h]
          exact Builder.foldlM_step {} events
      _ = ((Node.tokens children).foldlM Builder.put ⟨[⟨name, attributes, []⟩], none⟩).bind
            ([Token.closing].foldlM Builder.put) := List.foldlM_append
      _ = .ok ⟨[], some ⟨name, attributes, children⟩⟩ := by
          rw [hinside, Except.bind, List.foldlM_cons, hclosing]
          rfl
  rw [ofEvents_of_foldlM hbuilt]
  rfl

end Document

end FormFetch.Markup
