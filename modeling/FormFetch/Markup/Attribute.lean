import FormFetch.Markup.Reference

/-!
# Attributes

The inside of a start tag: a name up to the first space, then attributes with
quoted values, each name once.

* `name` and `attributes` read the inside of a tag; places are bytes from its start.
-/

namespace FormFetch.Markup.Tag

open FormFetch.Markup.Reference (width)

/-- White space as XML knows it. -/
def isSpace (c : Char) : Bool :=
  c == ' ' || c == '\t' || c == '\n' || c == '\r'

/-- What is wrong with an attribute. -/
inductive Fault where
  | expectedEquals (pos : Nat)
  | expectedValue (pos : Nat)
  | unquotedValue (pos : Nat)
  | unclosedValue (pos : Nat) (quote : Char)
  | duplicate (pos previous : Nat)
  | reference (fault : Reference.Fault)
  deriving DecidableEq, Repr

/-- The report of a bad attribute. -/
def Fault.message : Fault → String
  | .expectedEquals pos =>
    located pos "attribute key must be directly followed by `=` or space"
  | .expectedValue pos => located pos "`=` must be followed by an attribute value"
  | .unquotedValue pos => located pos "attribute value must be enclosed in `\"` or `'`"
  | .unclosedValue pos quote =>
    located pos s!"missing closing quote `{quote}` in attribute value"
  | .duplicate pos previous =>
    located pos s!"duplicated attribute, previous declaration at position {previous}"
  | .reference fault => fault.message
where
  /-- A report with its place. -/
  located (pos : Nat) (text : String) : String :=
    s!"error while parsing attribute: position {pos}: {text}"

/-- The name of a tag. -/
def name (inside : List Char) : List Char :=
  inside.takeWhile (!isSpace ·)

/-- One attribute: its name, its raw value, where the name starts, what follows the closing quote
and the place of that. -/
structure Found where
  key : List Char
  value : List Char
  start : Nat
  rest : List Char
  stop : Nat

/-- The value after `=`.  `pos` is the place of `input`. -/
def readValue (key : List Char) (start pos : Nat) (input : List Char) : Except Fault Found :=
  let place := pos + width (input.takeWhile isSpace)
  match input.dropWhile isSpace with
  | [] => .error (.expectedValue place)
  | quote :: body =>
    if quote = '"' ∨ quote = '\'' then
      let value := body.takeWhile (· != quote)
      let stop := place + 1 + width value
      match body.dropWhile (· != quote) with
      | [] => .error (.unclosedValue stop quote)
      | _ :: rest => .ok ⟨key, value, start, rest, stop + 1⟩
    else .error (.unquotedValue place)

/-- The attribute that starts with the character `first`, at the place `start`.  Its name may not be
one of `seen`, the names before it with their places. -/
def readAttribute (seen : List (List Char × Nat)) (start : Nat) (first : Char)
    (input : List Char) : Except Fault Found :=
  let isKeyChar := fun c => c != '=' && !isSpace c
  let key := first :: input.takeWhile isKeyChar
  let afterKey := input.dropWhile isKeyChar
  let equals := start + width key + width (afterKey.takeWhile isSpace)
  match afterKey.dropWhile isSpace with
  | '=' :: rest =>
    match seen.find? (·.1 == key) with
    | some previous => .error (.duplicate start previous.2)
    | none => readValue key start (equals + 1) rest
  | _ => .error (.expectedEquals equals)

theorem length_readValue_lt {key : List Char} {start pos : Nat} {input : List Char} {found : Found}
    (h : readValue key start pos input = .ok found) : found.rest.length < input.length := by
  unfold readValue at h
  simp only at h
  split at h
  · simp at h
  · next quote body hb =>
    split at h
    · split at h
      · simp at h
      · next rest hr =>
        have h1 := (List.dropWhile_sublist isSpace (l := input)).length_le
        have h2 := (List.dropWhile_sublist (· != quote) (l := body)).length_le
        rw [hb] at h1
        rw [hr] at h2
        simp only [Except.ok.injEq] at h
        subst h
        simp only [List.length_cons] at h1 h2 ⊢
        omega
    · simp at h

theorem length_readAttribute_le {seen : List (List Char × Nat)} {start : Nat} {first : Char}
    {input : List Char} {found : Found} (h : readAttribute seen start first input = .ok found) :
    found.rest.length ≤ input.length := by
  unfold readAttribute at h
  simp only at h
  split at h
  · next rest hr =>
    split at h
    · simp at h
    · have h1 := length_readValue_lt h
      have h2 := (List.dropWhile_sublist isSpace
        (l := input.dropWhile fun c => c != '=' && !isSpace c)).length_le
      have h3 := (List.dropWhile_sublist (fun c => c != '=' && !isSpace c) (l := input)).length_le
      rw [hr] at h2
      simp only [List.length_cons] at h2
      omega
  · simp at h

/-- The attributes of `input`, which starts at the place `pos`. -/
def attributesFrom (seen : List (List Char × Nat)) (pos : Nat) (input : List Char) :
    Except Fault (List (String × String)) :=
  match _h : input.dropWhile isSpace with
  | [] => .ok []
  | first :: rest =>
    match _hf : readAttribute seen (pos + width (input.takeWhile isSpace)) first rest with
    | .error fault => .error fault
    | .ok found =>
      match Reference.expand found.value with
      | .error fault => .error (.reference fault)
      | .ok value => do
        let others ← attributesFrom (seen ++ [(found.key, found.start)]) found.stop found.rest
        return (String.ofList found.key, String.ofList value) :: others
  termination_by input.length
  decreasing_by
    have h1 := length_readAttribute_le _hf
    have h2 := (List.dropWhile_sublist isSpace (l := input)).length_le
    rw [_h] at h2
    simp only [List.length_cons] at h2
    omega

/-- The attributes of a tag, in the order of the text. -/
def attributes (inside : List Char) : Except Fault (List (String × String)) :=
  attributesFrom [] (width (name inside)) (inside.drop (name inside).length)

end FormFetch.Markup.Tag
