import FormFetch.Text.Number
import FormFetch.Text.Utf8

/-!
# Character references

The replacement of `&name;` and `&#number;` by the characters that they stand for.
The five names of XML are known; a document cannot declare others.

* `expand` replaces the references of a text and reports the first bad one, with
  its place in bytes.
-/

namespace FormFetch.Markup.Reference

open FormFetch.Text

/-- Why the number of a reference names no character. -/
inductive NumberFault where
  | sign
  | digits (fault : Number.Fault)
  | noCharacter (code : Nat)
  | zero
  deriving DecidableEq, Repr

/-- The report of a bad number. -/
def NumberFault.message : NumberFault → String
  | .sign => "unexpected number sign"
  | .digits fault => fault.message
  | .noCharacter code => s!"`{code}` is not a valid codepoint"
  | .zero => "0x0 character is not permitted in XML"

/-- What is wrong with a reference.  Places are bytes from the start of the text. -/
inductive Fault where
  | unknownName (start stop : Nat) (name : String)
  | unterminated (start stop : Nat)
  | badNumber (fault : NumberFault)
  deriving DecidableEq, Repr

/-- The report of a bad reference. -/
def Fault.message : Fault → String
  | .unknownName start stop name => s!"at {start}..{stop}: unrecognized entity `{name}`"
  | .unterminated start stop =>
    s!"Error while escaping character at range {start}..{stop}: Cannot find ';' after '&'"
  | .badNumber fault => s!"invalid character reference: {fault.message}"

/-- The length of a text in bytes. -/
def width (cs : List Char) : Nat :=
  (Utf8.encode cs).length

/-- The character of a code, if the code names one. -/
def charOfCode? (code : Nat) : Option Char :=
  if code.isValidChar then some (Char.ofNat code) else none

/-- The character of a number, without its leading `#`. -/
def charOfNumber (number : List Char) : Except NumberFault Char :=
  let (radix, digits) :=
    match number with
    | 'x' :: rest => (16, rest)
    | digits => (10, digits)
  match digits with
  | '+' :: _ | '-' :: _ => .error .sign
  | _ =>
    match Number.natural radix Number.max32 digits with
    | .error fault => .error (.digits fault)
    | .ok 0 => .error .zero
    | .ok code =>
      match charOfCode? code with
      | some c => .ok c
      | none => .error (.noCharacter code)

/-- The character of a predefined name. -/
def charOfName? (name : List Char) : Option Char :=
  if name = "lt".toList then some '<'
  else if name = "gt".toList then some '>'
  else if name = "amp".toList then some '&'
  else if name = "apos".toList then some '\''
  else if name = "quot".toList then some '"'
  else none

/-- The character of a reference between `&` and `;`, at the byte `start`. -/
def resolve (start : Nat) (body : List Char) : Except Fault Char :=
  match body with
  | '#' :: number =>
    match charOfNumber number with
    | .ok c => .ok c
    | .error fault => .error (.badNumber fault)
  | name =>
    match charOfName? name with
    | some c => .ok c
    | none => .error (.unknownName start (start + width name) (String.ofList name))

/-- Neither the start nor the end of a reference. -/
def isBodyChar (c : Char) : Bool :=
  c != '&' && c != ';'

/-- The text from byte `pos` on with its references replaced; the whole text ends at byte `stop`. -/
def expandFrom (stop pos : Nat) : List Char → Except Fault (List Char)
  | [] => .ok []
  | '&' :: rest =>
    match _h : rest.dropWhile isBodyChar with
    | ';' :: after => do
      let body := rest.takeWhile isBodyChar
      let c ← resolve (pos + 1) body
      let cs ← expandFrom stop (pos + width body + 2) after
      return c :: cs
    | _ => .error (.unterminated pos stop)
  | c :: rest => do
    let cs ← expandFrom stop (pos + width [c]) rest
    return c :: cs
  termination_by text => text.length
  decreasing_by
    · have := (List.dropWhile_sublist isBodyChar (l := rest)).length_le
      rw [_h] at this
      simp only [List.length_cons] at this ⊢
      omega
    · simp

/-- A text with its references replaced. -/
def expand (text : List Char) : Except Fault (List Char) :=
  expandFrom (width text) 0 text

end FormFetch.Markup.Reference
