import FormFetch.Markup.Event

/-!
# Documents

The tree of a document: one root element, every element closed, no text outside
the root.

* `Document.Builder` folds events into a tree; `Document.ofEvents` runs it.
* `Document.parse` reads bytes.
-/

namespace FormFetch.Markup

open FormFetch.Text

/-- A child of an element. -/
inductive Node where
  | element (name : String) (attributes : List (String × String)) (children : List Node)
  | text (content : String)
  deriving Repr, BEq, Inhabited

/-- An element: its qualified name, its attributes and its children in the order of the text. -/
structure Element where
  name : String
  attributes : List (String × String)
  children : List Node
  deriving Repr, BEq, Inhabited

/-- The part of a qualified name after its last colon. -/
def localName (name : String) : String :=
  String.ofList ((name.toList.reverse.takeWhile (· != ':')).reverse)

namespace Element

/-- An element as a child. -/
def toNode (e : Element) : Node :=
  .element e.name e.attributes e.children

/-- The name without its namespace. -/
def localName (e : Element) : String :=
  Markup.localName e.name

/-- The value of the first attribute with a qualified name. -/
def attribute? (e : Element) (name : String) : Option String :=
  (e.attributes.find? (·.1 == name)).map (·.2)

/-- The children that are elements. -/
def elements (e : Element) : List Element :=
  e.children.filterMap fun
    | .element name attributes children => some ⟨name, attributes, children⟩
    | .text _ => none

/-- The first child element of a local name. -/
def child? (e : Element) (name : String) : Option Element :=
  e.elements.find? (·.localName == name)

/-- The texts directly inside the element, joined. -/
def text (e : Element) : String :=
  String.join <| e.children.filterMap fun
    | .text content => some content
    | .element .. => none

end Element

/-- Why bytes are not a document. -/
inductive DocumentFault where
  | noRoot
  | encoding (fault : Utf8.Fault)
  /-- The text is not a sequence of events; the position counts bytes. -/
  | malformed (position : Nat) (fault : EventFault)
  | unclosed (name : String)
  | secondRoot (name : String)
  | strayText
  deriving DecidableEq, Repr

/-- The report of a fault. -/
def DocumentFault.message : DocumentFault → String
  | .noRoot => "document has no root element"
  | .encoding fault => s!"document is not valid UTF-8: {fault.message}"
  | .malformed position fault => s!"malformed XML at byte {position}: {fault.message}"
  | .unclosed name => s!"unexpected end of document: <{name}> is not closed"
  | .secondRoot name => s!"unexpected element <{name}> after the root element"
  | .strayText => "unexpected text outside the root element"

/-- A document is its root element. -/
structure Document where
  root : Element
  deriving Repr, BEq, Inhabited

namespace Document

/-- A tree under construction: the open elements, innermost first, each with the children so far in
reverse order, and the root once it is closed. -/
structure Builder where
  opened : List Element := []
  root : Option Element := none
  deriving Repr, BEq, Inhabited

namespace Builder

/-- An element whose children are collected, with them in their order. -/
def close (e : Element) : Element :=
  { e with children := e.children.reverse }

/-- A node as the next child of an element. -/
def push (e : Element) (node : Node) : Element :=
  { e with children := node :: e.children }

/-- A finished element under its parent, or as the root. -/
def attach (b : Builder) (e : Element) : Except DocumentFault Builder :=
  match b.opened with
  | parent :: outer => .ok { b with opened := push parent e.toNode :: outer }
  | [] =>
    match b.root with
    | some _ => .error (.secondRoot e.name)
    | none => .ok { b with root := some e }

/-- A text under the innermost open element.  An empty text leaves no trace, and blank text may
stand outside the root. -/
def addText (b : Builder) (content : String) : Except DocumentFault Builder :=
  match b.opened with
  | parent :: outer =>
    if content = "" then .ok b
    else .ok { b with opened := push parent (.text content) :: outer }
  | [] => if blank content then .ok b else .error .strayText

/-- The tree after one more event. -/
def step (b : Builder) : Event → Except DocumentFault Builder
  | .start name attributes =>
    if b.opened.isEmpty && b.root.isSome then .error (.secondRoot name)
    else .ok { b with opened := ⟨name, attributes, []⟩ :: b.opened }
  | .empty name attributes => b.attach ⟨name, attributes, []⟩
  | .close =>
    match b.opened with
    | [] => .ok b
    | e :: outer => { b with opened := outer }.attach (close e)
  | .text content => b.addText content
  | .verbatim content => b.addText content
  | .aside => .ok b

/-- The document, if all elements are closed. -/
def finish (b : Builder) : Except DocumentFault Document :=
  match b.opened, b.root with
  | e :: _, _ => .error (.unclosed e.name)
  | [], some root => .ok ⟨root⟩
  | [], none => .error .noRoot

end Builder

/-- The document of a sequence of events. -/
def ofEvents (events : List Event) : Except DocumentFault Document := do
  (← events.foldlM Builder.step {}).finish

/-- A text without the byte order mark at its start. -/
def withoutMark : List Char → List Char
  | '\uFEFF' :: rest => rest
  | cs => cs

/-- The document of a text.  A fault of the tree that comes before a fault of the text wins. -/
def ofText (text : List Char) : Except DocumentFault Document := do
  let text := withoutMark text
  let (events, stop) := Event.scan text
  let builder ← events.foldlM Builder.step {}
  match stop with
  | some stop =>
    .error (.malformed (Reference.width text - Reference.width stop.rest) stop.fault)
  | none => builder.finish

/-- The document of a byte sequence. -/
def parse (bytes : List UInt8) : Except DocumentFault Document :=
  match Utf8.decode bytes with
  | .error fault => .error (.encoding fault)
  | .ok text => ofText text

end Document

end FormFetch.Markup
