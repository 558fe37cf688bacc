/-!
# JSON faults

Why a JSON text is refused, and where.  Reading reports how many bytes follow the
faulty place; `Report.of` turns that into a line and a column of the whole text.
-/

namespace FormFetch.Json

/-- What is wrong with a JSON text. -/
inductive Fault where
  | endInList
  | endInObject
  | endInString
  | endInValue
  | expectedColon
  | expectedListCommaOrEnd
  | expectedObjectCommaOrEnd
  | expectedIdent
  | expectedValue
  | invalidEscape
  | invalidNumber
  | numberOutOfRange
  | invalidCharacter
  | controlCharacter
  | keyNotString
  | loneSurrogate
  | trailingComma
  | trailingCharacters
  | endOfHexEscape
  /-- A value of another kind than the wanted one. -/
  | unexpected (found wanted : String)
  /-- A list too short for the wanted value. -/
  | length (found : Nat) (wanted : String)
  | missing (field : String)
  | duplicate (field : String)
  deriving DecidableEq, Repr

/-- The text of a fault, without its place. -/
def Fault.message : Fault → String
  | .endInList => "EOF while parsing a list"
  | .endInObject => "EOF while parsing an object"
  | .endInString => "EOF while parsing a string"
  | .endInValue => "EOF while parsing a value"
  | .expectedColon => "expected `:`"
  | .expectedListCommaOrEnd => "expected `,` or `]`"
  | .expectedObjectCommaOrEnd => "expected `,` or `\x7d`"
  | .expectedIdent => "expected ident"
  | .expectedValue => "expected value"
  | .invalidEscape => "invalid escape"
  | .invalidNumber => "invalid number"
  | .numberOutOfRange => "number out of range"
  | .invalidCharacter => "invalid unicode code point"
  | .controlCharacter => "control character (\\u0000-\\u001F) found while parsing a string"
  | .keyNotString => "key must be a string"
  | .loneSurrogate => "lone leading surrogate in hex escape"
  | .trailingComma => "trailing comma"
  | .trailingCharacters => "trailing characters"
  | .endOfHexEscape => "unexpected end of hex escape"
  | .unexpected found wanted => s!"invalid type: {found}, expected {wanted}"
  | .length found wanted => s!"invalid length {found}, expected {wanted}"
  | .missing field => s!"missing field `{field}`"
  | .duplicate field => s!"duplicate field `{field}`"

/-- A fault and the number of bytes after its place. -/
structure Failure where
  fault : Fault
  left : Nat
  deriving DecidableEq, Repr

/-- A fault and its place in the text. -/
structure Report where
  fault : Fault
  line : Nat
  column : Nat
  deriving DecidableEq, Repr

/-- The place of a failure in the whole text: lines count from 1, and the column is the number of
bytes since the line began. -/
def Report.of (input : List UInt8) (failure : Failure) : Report :=
  let before := input.take (input.length - failure.left)
  { fault := failure.fault
    line := before.count 0x0A + 1
    column := (before.reverse.takeWhile (· != 0x0A)).length }

/-- The text of a report. -/
def Report.message (r : Report) : String :=
  s!"{r.fault.message} at line {r.line} column {r.column}"

end FormFetch.Json
