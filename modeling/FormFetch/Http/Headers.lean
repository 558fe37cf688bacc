import FormFetch.Text.Blank
import FormFetch.Text.Utf8

/-!
# Header fields

Header fields by name.  Names are compared without regard to the case of ASCII
letters and kept in lower case; values are bytes, and a name may have several.

* `getAll_insert_self`: an inserted value is the only one of its name.
-/

namespace FormFetch.Http

open FormFetch.Text

/-- Header fields in the order in which they were added. -/
structure Headers where
  /-- Names in lower case and values. -/
  fields : List (String × List UInt8) := []
  deriving DecidableEq, Repr, Inhabited

namespace Headers

/-- All values of a name, in order. -/
def getAll (headers : Headers) (name : String) : List (List UInt8) :=
  (headers.fields.filter (·.1 == lower name)).map (·.2)

/-- The first value of a name. -/
def get? (headers : Headers) (name : String) : Option (List UInt8) :=
  (headers.getAll name).head?

/-- Removes all values of a name. -/
def erase (headers : Headers) (name : String) : Headers :=
  ⟨headers.fields.filter (·.1 != lower name)⟩

/-- Adds a value to those of a name. -/
def append (headers : Headers) (name : String) (value : List UInt8) : Headers :=
  ⟨headers.fields ++ [(lower name, value)]⟩

/-- Gives a name one value in place of those it has. -/
def insert (headers : Headers) (name : String) (value : List UInt8) : Headers :=
  (headers.erase name).append name value

/-- The fields of a list, each added to those before. -/
def ofList (fields : List (String × List UInt8)) : Headers :=
  fields.foldl (fun headers f => headers.append f.1 f.2) {}

/-- Inserts each field of the second list; of several of one name the last one stays. -/
def insertAll (headers more : Headers) : Headers :=
  more.fields.foldl (fun headers f => headers.insert f.1 f.2) headers

/-- Replaces the fields of every name that the second list has. -/
def override (headers more : Headers) : Headers :=
  ⟨headers.fields.filter (fun f => !more.fields.any (·.1 == f.1)) ++ more.fields⟩

end Headers

/-- A byte that a field value may hold: no control byte but the tab. -/
def isFieldByte (b : UInt8) : Bool :=
  b == 0x09 || (0x20 ≤ b && b != 0x7F)

/-- A byte of a field value that is read as a character: printable ASCII and the tab. -/
def isTextByte (b : UInt8) : Bool :=
  b == 0x09 || (0x20 ≤ b && b < 0x7F)

/-- The text of a field value, if it consists of printable ASCII and tabs. -/
def fieldText? (value : List UInt8) : Option String :=
  if value.all isTextByte then some (String.ofList (value.map fun b => Char.ofNat b.toNat))
  else none

/-- The field value of a text, if it is one. -/
def fieldValue? (text : String) : Option (List UInt8) :=
  let value := Utf8.bytes text
  if value.all isFieldByte then some value else none

/-- An inserted value is the only one of its name. -/
@[simp] theorem Headers.getAll_insert_self (headers : Headers) (name : String)
    (value : List UInt8) : (headers.insert name value).getAll name = [value] := by
  simp [insert, erase, append, getAll, List.filter_append, List.filter_filter]

end FormFetch.Http
