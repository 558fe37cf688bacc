import FormFetch.Bytes.Hex
import FormFetch.Text.Utf8

/-!
# Percent-encoding

Bytes that may not stand in a part of an address are written as `%` and two
upper-case digits.  Each part has its own set of characters to encode; controls
and characters outside ASCII are in all of them.

* `encode` writes, `decode` reads.
-/

namespace FormFetch.Url.Percent

open FormFetch.Text

/-- Controls and everything outside ASCII. -/
def inControls (c : Char) : Bool :=
  c.toNat < 0x20 || 0x7E < c.toNat

/-- What is encoded in a fragment. -/
def inFragment (c : Char) : Bool :=
  inControls c || c == ' ' || c == '"' || c == '<' || c == '>' || c == '`'

/-- What is encoded in a path. -/
def inPath (c : Char) : Bool :=
  inFragment c || c == '#' || c == '?' || c == '\x7b' || c == '\x7d'

/-- What is encoded in a username or a password. -/
def inUserInfo (c : Char) : Bool :=
  inPath c || c == '/' || c == ':' || c == ';' || c == '=' || c == '@' || c == '[' ||
    c == '\\' || c == ']' || c == '^' || c == '|'

/-- What is encoded in a query. -/
def inQuery (c : Char) : Bool :=
  inControls c || c == ' ' || c == '"' || c == '#' || c == '<' || c == '>' || c == '\''

/-- An upper-case hexadecimal digit. -/
def digit (n : Nat) : Char :=
  (Bytes.hexDigit n).toUpper

/-- One byte as `%` and two digits. -/
def ofByte (b : UInt8) : List Char :=
  ['%', digit (b.toNat / 16), digit (b.toNat % 16)]

/-- A text with the characters of a set encoded. -/
def encode (inSet : Char → Bool) (cs : List Char) : List Char :=
  cs.flatMap fun c => if inSet c then (Utf8.encodeChar c).flatMap ofByte else [c]

/-- Bytes with each `%` that stands before two hexadecimal digits decoded. -/
def decode : List UInt8 → List UInt8
  | [] => []
  | [a] => [a]
  | [a, b] => [a, b]
  | a :: b :: c :: rest =>
    match a == 0x25, Bytes.hexValue? (Char.ofNat b.toNat), Bytes.hexValue? (Char.ofNat c.toNat) with
    | true, some high, some low => (high * 16 + low).toUInt8 :: decode rest
    | _, _, _ => a :: decode (b :: c :: rest)

end FormFetch.Url.Percent
