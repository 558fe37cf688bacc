import FormFetch.Markup.Attribute
import FormFetch.Text.Blank

/-!
# Markup events

A document as the sequence of its tags and texts.  White space at the two ends of
a text run is layout and is dropped, references are replaced, and an end tag must
name the element that it closes.

* `Event.next` reads one piece of markup after its `<`; `length_next_le` says that
  it never lengthens what is left.
* `Event.scan` reads a whole document: the events up to its end or up to the first
  fault.
-/

namespace FormFetch.Markup

open FormFetch.Text

/-- A piece of a document. -/
inductive Event where
  /-- The start of an element with content. -/
  | start (name : String) (attributes : List (String × String))
  /-- An element without content. -/
  | empty (name : String) (attributes : List (String × String))
  /-- The end of the innermost open element. -/
  | close
  /-- A text run. -/
  | text (content : String)
  /-- A character data section. -/
  | verbatim (content : String)
  /-- A declaration, a comment, an instruction or a document type. -/
  | aside
  deriving DecidableEq, Repr

/-- Why a text is not a sequence of events. -/
inductive EventFault where
  | unknownMarkup
  | unclosedInstruction
  | unclosedComment
  | unclosedDoctype
  | unclosedVerbatim
  | unclosedTag
  | namelessDoctype
  | mismatchedEnd (expected found : String)
  | unmatchedEnd (found : String)
  | tag (fault : Tag.Fault)
  | reference (fault : Reference.Fault)
  deriving DecidableEq, Repr

/-- The report of a fault. -/
def EventFault.message : EventFault → String
  | .unknownMarkup => "syntax error: unknown or missed symbol in markup"
  | .unclosedInstruction => unclosed "processing instruction or xml declaration" "?>"
  | .unclosedComment => unclosed "comment" "-->"
  | .unclosedDoctype => unclosed "DOCTYPE" ">"
  | .unclosedVerbatim => unclosed "CDATA" "]]>"
  | .unclosedTag => unclosed "tag" ">"
  | .namelessDoctype =>
    "ill-formed document: `<!DOCTYPE>` declaration does not contain a name of a document type"
  | .mismatchedEnd expected found =>
    s!"ill-formed document: expected `</{expected}>`, but `</{found}>` was found"
  | .unmatchedEnd found =>
    s!"ill-formed document: close tag `</{found}>` does not match any open tag"
  | .tag fault => fault.message
  | .reference fault => fault.message
where
  /-- The report of markup whose closing mark is missing. -/
  unclosed (what mark : String) : String :=
    s!"syntax error: {what} not closed: `{mark}` not found before end of input"

/-- Where reading stopped, and why. -/
structure Stop where
  fault : EventFault
  /-- The text from the reported place on. -/
  rest : List Char
  deriving DecidableEq, Repr

namespace Event

open FormFetch.Markup.Tag (isSpace)

/-! ## The ends of markup -/

/-- The inside of a tag and what follows its `>`.  A `>` between quotes does not end a tag;
`quote` is the open quote. -/
def untilTagEnd (quote : Option Char) : List Char → Option (List Char × List Char)
  | [] => none
  | c :: rest =>
    match quote with
    | none =>
      if c = '>' then some ([], rest)
      else
        (untilTagEnd (if c = '"' ∨ c = '\'' then some c else none) rest).map
          fun found => (c :: found.1, found.2)
    | some q =>
      (untilTagEnd (if c = q then none else some q) rest).map
        fun found => (c :: found.1, found.2)

/-- The text up to the first `>` whose preceding characters, nearest first, satisfy `accept`, and
what follows that `>`.  `before` is what precedes the input, nearest first. -/
def untilMark (accept : List Char → Bool) (before : List Char) :
    List Char → Option (List Char × List Char)
  | [] => none
  | c :: rest =>
    if c = '>' ∧ accept before then some ([], rest)
    else (untilMark accept (c :: before) rest).map fun found => (c :: found.1, found.2)

/-- The text up to the `>` that balances, and what follows it.  `depth` counts the open `<`. -/
def untilBalance (depth : Nat) : List Char → Option (List Char × List Char)
  | [] => none
  | c :: rest =>
    if c = '>' ∧ depth = 0 then some ([], rest)
    else
      let depth := if c = '<' then depth + 1 else if c = '>' then depth - 1 else depth
      (untilBalance depth rest).map fun found => (c :: found.1, found.2)

/-- A comment ends with two dashes of its own. -/
def endsComment (before : List Char) : Bool :=
  4 < before.length && ['-', '-'].isPrefixOf before

/-- A character data section ends with two brackets. -/
def endsVerbatim (before : List Char) : Bool :=
  [']', ']'].isPrefixOf before

/-- An instruction ends with a question mark. -/
def endsInstruction (before : List Char) : Bool :=
  ['?'].isPrefixOf before

theorem length_untilTagEnd {quote : Option Char} {input inside rest : List Char}
    (h : untilTagEnd quote input = some (inside, rest)) : rest.length < input.length := by
  induction input generalizing quote inside rest with
  | nil => simp [untilTagEnd] at h
  | cons c tail ih =>
    simp only [untilTagEnd] at h
    split at h
    · split at h
      · simp only [Option.some.injEq, Prod.mk.injEq] at h
        simp [← h.2]
      · obtain ⟨⟨a, b⟩, hf, he⟩ := Option.map_eq_some_iff.1 h
        simp only [Prod.mk.injEq] at he
        have := ih hf
        simp only [List.length_cons, ← he.2]
        omega
    · obtain ⟨⟨a, b⟩, hf, he⟩ := Option.map_eq_some_iff.1 h
      simp only [Prod.mk.injEq] at he
      have := ih hf
      simp only [List.length_cons, ← he.2]
      omega

theorem length_untilMark {accept : List Char → Bool} {before input inside rest : List Char}
    (h : untilMark accept before input = some (inside, rest)) : rest.length < input.length := by
  induction input generalizing before inside rest with
  | nil => simp [untilMark] at h
  | cons c tail ih =>
    simp only [untilMark] at h
    split at h
    · simp only [Option.some.injEq, Prod.mk.injEq] at h
      simp [← h.2]
    · obtain ⟨⟨a, b⟩, hf, he⟩ := Option.map_eq_some_iff.1 h
      simp only [Prod.mk.injEq] at he
      have := ih hf
      simp only [List.length_cons, ← he.2]
      omega

theorem length_untilBalance {depth : Nat} {input inside rest : List Char}
    (h : untilBalance depth input = some (inside, rest)) : rest.length < input.length := by
  induction input generalizing depth inside rest with
  | nil => simp [untilBalance] at h
  | cons c tail ih =>
    simp only [untilBalance] at h
    split at h
    · simp only [Option.some.injEq, Prod.mk.injEq] at h
      simp [← h.2]
    · obtain ⟨⟨a, b⟩, hf, he⟩ := Option.map_eq_some_iff.1 h
      simp only [Prod.mk.injEq] at he
      have := ih hf
      simp only [List.length_cons, ← he.2]
      omega

/-! ## One piece of markup -/

/-- An event, the names of the elements that are open after it, innermost first, and what follows
it. -/
structure Step where
  event : Event
  opened : List (List Char)
  rest : List Char

/-- Markup that starts with `!`: a comment, a character data section or a document type. -/
def declaration (opened : List (List Char)) (input : List Char) : Except Stop Step :=
  match input with
  | _ :: '-' :: _ =>
    match untilMark endsComment [] input with
    | none => .error ⟨.unclosedComment, []⟩
    | some (inside, rest) =>
      if "!--".toList.isPrefixOf inside then .ok ⟨.aside, opened, rest⟩
      else .error ⟨.unclosedComment, rest⟩
  | _ :: '[' :: _ =>
    match untilMark endsVerbatim [] input with
    | none => .error ⟨.unclosedVerbatim, []⟩
    | some (inside, rest) =>
      if "![CDATA[".toList.isPrefixOf inside then
        let content := (inside.drop 8).take (inside.length - 10)
        .ok ⟨.verbatim (String.ofList content), opened, rest⟩
      else .error ⟨.unclosedVerbatim, rest⟩
  | _ :: c :: _ =>
    if c = 'D' ∨ c = 'd' then
      match untilBalance 0 input with
      | none => .error ⟨.unclosedDoctype, []⟩
      | some (inside, rest) =>
        if (inside.take 8).map Char.toLower = "!doctype".toList then
          if (inside.drop 8).all isSpace then .error ⟨.namelessDoctype, rest⟩
          else .ok ⟨.aside, opened, rest⟩
        else .error ⟨.unclosedDoctype, rest⟩
    else .error ⟨.unknownMarkup, input⟩
  | _ => .error ⟨.unknownMarkup, input⟩

/-- The name of an end tag: without trailing spaces, unless it is nothing but spaces. -/
def endName (inside : List Char) : List Char :=
  if inside.all isSpace then inside else dropEndWhile isSpace inside

/-- An end tag, from its `/` on. -/
def endTag (opened : List (List Char)) (input : List Char) : Except Stop Step :=
  match untilTagEnd none input with
  | none => .error ⟨.unclosedTag, []⟩
  | some (inside, rest) =>
    let name := endName (inside.drop 1)
    match opened with
    | [] => .error ⟨.unmatchedEnd (String.ofList name), rest⟩
    | expected :: outer =>
      if name = expected then .ok ⟨.close, outer, rest⟩
      else .error ⟨.mismatchedEnd (String.ofList expected) (String.ofList name), rest⟩

/-- An instruction or the document's declaration, from its `?` on. -/
def instruction (opened : List (List Char)) (input : List Char) : Except Stop Step :=
  match untilMark endsInstruction [] input with
  | none => .error ⟨.unclosedInstruction, []⟩
  | some (inside, rest) =>
    if 1 < inside.length then .ok ⟨.aside, opened, rest⟩
    else .error ⟨.unclosedInstruction, rest⟩

/-- A start tag, or an element without content. -/
def startTag (opened : List (List Char)) (input : List Char) : Except Stop Step :=
  match untilTagEnd none input with
  | none => .error ⟨.unclosedTag, []⟩
  | some (inside, rest) =>
    let closed := inside.getLast? == some '/'
    let inside := if closed then inside.dropLast else inside
    match Tag.attributes inside with
    | .error (.reference fault) => .error ⟨.reference fault, rest⟩
    | .error fault => .error ⟨.tag fault, rest⟩
    | .ok attributes =>
      let name := Tag.name inside
      if closed then .ok ⟨.empty (String.ofList name) attributes, opened, rest⟩
      else .ok ⟨.start (String.ofList name) attributes, name :: opened, rest⟩

/-- The markup after a `<`. -/
def next (opened : List (List Char)) (input : List Char) : Except Stop Step :=
  match input with
  | [] => .error ⟨.unclosedTag, []⟩
  | '!' :: _ => declaration opened input
  | '/' :: _ => endTag opened input
  | '?' :: _ => instruction opened input
  | _ => startTag opened input

theorem length_declaration_le {opened : List (List Char)} {input : List Char} {step : Step}
    (h : declaration opened input = .ok step) : step.rest.length ≤ input.length := by
  unfold declaration at h
  split at h
  · split at h
    · simp at h
    · next hm =>
      split at h
      · simp only [Except.ok.injEq] at h
        simpa [← h] using Nat.le_of_lt (length_untilMark hm)
      · simp at h
  · split at h
    · simp at h
    · next hm =>
      split at h
      · simp only [Except.ok.injEq] at h
        simpa [← h] using Nat.le_of_lt (length_untilMark hm)
      · simp at h
  · split at h
    · split at h
      · simp at h
      · next hm =>
        split at h
        · split at h
          · simp at h
          · simp only [Except.ok.injEq] at h
            simpa [← h] using Nat.le_of_lt (length_untilBalance hm)
        · simp at h
    · simp at h
  · simp at h

theorem length_endTag_le {opened : List (List Char)} {input : List Char} {step : Step}
    (h : endTag opened input = .ok step) : step.rest.length ≤ input.length := by
  unfold endTag at h
  split at h
  · simp at h
  · next hm =>
    simp only at h
    split at h
    · simp at h
    · split at h
      · simp only [Except.ok.injEq] at h
        simpa [← h] using Nat.le_of_lt (length_untilTagEnd hm)
      · simp at h

theorem length_instruction_le {opened : List (List Char)} {input : List Char} {step : Step}
    (h : instruction opened input = .ok step) : step.rest.length ≤ input.length := by
  unfold instruction at h
  split at h
  · simp at h
  · next hm =>
    split at h
    · simp only [Except.ok.injEq] at h
      simpa [← h] using Nat.le_of_lt (length_untilMark hm)
    · simp at h

theorem length_startTag_le {opened : List (List Char)} {input : List Char} {step : Step}
    (h : startTag opened input = .ok step) : step.rest.length ≤ input.length := by
  unfold startTag at h
  split at h
  · simp at h
  · next hm =>
    simp only at h
    split at h
    · simp at h
    · simp at h
    · split at h <;>
      · simp only [Except.ok.injEq] at h
        simpa [← h] using Nat.le_of_lt (length_untilTagEnd hm)

theorem length_next_le {opened : List (List Char)} {input : List Char} {step : Step}
    (h : next opened input = .ok step) : step.rest.length ≤ input.length := by
  unfold next at h
  split at h
  · simp at h
  · exact length_declaration_le h
  · exact length_endTag_le h
  · exact length_instruction_le h
  · exact length_startTag_le h

/-! ## Whole documents -/

/-- The text run before the next `<`, if there is one: without spaces at its ends and with its
references replaced. -/
def run (input : List Char) : Except Stop (List Event) :=
  match dropEndWhile isSpace (input.takeWhile (· != '<')) with
  | [] => .ok []
  | raw =>
    match Reference.expand raw with
    | .ok content => .ok [.text (String.ofList content)]
    | .error fault => .error ⟨.reference fault, input.dropWhile (· != '<')⟩

/-- The events of `input`, of which the elements `opened` are open, up to the first fault. -/
def scanFrom (opened : List (List Char)) (input : List Char) : List Event × Option Stop :=
  let start := input.dropWhile isSpace
  match run start with
  | .error stop => ([], some stop)
  | .ok texts =>
    match _h : start.dropWhile (· != '<') with
    | [] => (texts, none)
    | _ :: body =>
      match _hn : next opened body with
      | .error stop => (texts, some stop)
      | .ok step =>
        let after := scanFrom step.opened step.rest
        (texts ++ step.event :: after.1, after.2)
  termination_by input.length
  decreasing_by
    have h1 := length_next_le _hn
    have h2 := (List.dropWhile_sublist (· != '<') (l := input.dropWhile isSpace)).length_le
    have h3 := (List.dropWhile_sublist isSpace (l := input)).length_le
    simp only [start] at _h
    rw [_h] at h2
    simp only [List.length_cons] at h2
    omega

/-- The events of a document, up to the first fault. -/
def scan (input : List Char) : List Event × Option Stop :=
  scanFrom [] input

end Event

end FormFetch.Markup
