import FormFetch.Text.NormalForm
import FormFetch.Url.DirectionTable
import FormFetch.Url.JoiningTable
import FormFetch.Url.Mapping
import FormFetch.Url.Punycode

/-!
# Labels of a domain name

What stands between the dots of a domain name.  A label with characters outside
ASCII is written as `xn--` and its Punycode form; `Label.read?` gives the characters
of a label in either form, and `Label.written` its form in ASCII.
-/

namespace FormFetch.Url.Label

open FormFetch.Text

/-- Whether a label has no character outside ASCII. -/
def isAscii (label : List Char) : Bool :=
  label.all (·.toNat < 0x80)

/-! ## Joiners -/

/-- How the first of some characters joins its neighbours, marks passed over. -/
def joining? (label : List Char) : Option Joining :=
  (label.map Joining.of).find? (· != .transparent)

/-- Whether a joiner may stand between what is before it, in reverse, and what follows: after a
sign that takes away a vowel, and a non-joiner also between two letters that would join. -/
def joinerStands (joiner : Char) (before after : List Char) : Bool :=
  (match before with
    | c :: _ => Composition.combiningClass c == 9
    | [] => false) ||
  (joiner == '\u200c' &&
    (joining? before == some .next || joining? before == some .both) &&
    (joining? after == some .previous || joining? after == some .both))

/-- Whether every joiner of a label stands where it may; `before` is what has been seen, in
reverse. -/
def joinersStand (before : List Char) : List Char → Bool
  | [] => true
  | c :: rest =>
    (if c == '\u200c' || c == '\u200d' then joinerStands c before rest else true) &&
      joinersStand (c :: before) rest

/-! ## Direction -/

/-- Whether a label has characters that are written from right to left. -/
def isRightToLeft (label : List Char) : Bool :=
  label.any fun c => Direction.of c == .right || Direction.of c == .arabicNumber

/-- Whether the characters of a label keep their order when they are shown (RFC 5893). -/
def keepsOrder (label : List Char) : Bool :=
  let directions := label.map Direction.of
  let last := (directions.reverse.dropWhile (· == .mark)).head?
  match directions.head? with
  | none => true
  | some .left =>
    !directions.any (fun d => d == .right || d == .arabicNumber) &&
      (last == some .left || last == some .number)
  | some .right =>
    !directions.contains .left &&
      !(directions.contains .number && directions.contains .arabicNumber) &&
      (last == some .right || last == some .number || last == some .arabicNumber)
  | some _ => false

/-! ## Both forms -/

/-- A label that needs no change: it does not begin with a mark, and its joiners stand where they
may. -/
def isValid (label : List Char) : Bool :=
  (match label with
    | c :: _ => !isMark c
    | [] => true) &&
  joinersStand [] label

/-- The characters of a label, of which those outside ASCII may be given in Punycode. -/
def read? (label : List Char) : Option (List Char) :=
  match label with
  | 'x' :: 'n' :: '-' :: '-' :: rest => do
    if !isAscii rest then none
    else
      let label ← Punycode.decode rest
      if isAscii label || !isValid label || NormalForm.compose label != label
          || Mapping.name? label != some label then none
      else some label
  | _ => if isAscii label || isValid label then some label else none

/-- The form of a label in ASCII. -/
def written (label : List Char) : List Char :=
  if isAscii label then label else "xn--".toList ++ Punycode.encode label

end FormFetch.Url.Label
