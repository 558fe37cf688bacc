import FormFetch.Text.Marks
import FormFetch.Text.Printable
import FormFetch.Url.MappingTable

/-!
# The characters of a domain name

`Mapping.name?` replaces each character of a name by those that it stands for, and
refuses a name with a character that no domain name may hold.
-/

namespace FormFetch.Url.Mapping

open MappingTable

/-- Whether a code lies in one of some runs. -/
def inRuns (runs : List (Nat × Nat)) (code : Nat) : Bool :=
  runs.any fun (first, last) => first ≤ code && code ≤ last

/-- The target of a code in the table of regular runs. -/
def shift? (code : Nat) : List Nat → Option Nat
  | first :: last :: step :: target :: rest =>
    if first ≤ code ∧ code ≤ last ∧ (code - first) % step = 0 then some (target + (code - first))
    else shift? code rest
  | _ => none

/-- The target of a code in the table of single targets. -/
def single? (code : Nat) (table : List Nat) : Option Nat :=
  match table with
  | first :: count :: rest =>
    if first ≤ code ∧ code < first + count then rest[code - first]?
    else single? code (rest.drop count)
  | _ => none
  termination_by table.length
  decreasing_by simp only [List.length_cons, List.length_drop]; omega

/-- The targets of a code in the table of several targets. -/
def several? (code : Nat) (table : List Nat) : Option (List Nat) :=
  match table with
  | first :: count :: rest =>
    if first = code then some (rest.take count) else several? code (rest.drop count)
  | _ => none
  termination_by table.length
  decreasing_by simp only [List.length_cons, List.length_drop]; omega

/-- The codes that a code stands for, if it does not stand for itself. -/
def targets? (code : Nat) : Option (List Nat) :=
  ((shift? code shifts.toList).map fun target => [target]).or
    (((single? code singles.toList).map fun target => [target]).or
      (several? code expansions.toList))

/-- The letters and joiners that stand for themselves although other rules would replace them. -/
def isDeviation (c : Char) : Bool :=
  c == 'ß' || c == 'ς' || c == '\u200c' || c == '\u200d'

/-- A character outside ASCII that stands for itself. -/
def isPlain (c : Char) : Bool :=
  isDeviation c ||
    ((Text.isPrintable c || Text.isMark c) && !inRuns excluded c.toNat)

/-- The characters that a character stands for, or `none` if no name may hold it. -/
def char? (c : Char) : Option (List Char) :=
  if c.toNat < 0x80 then some [c.toLower]
  else if isDeviation c then some [c]
  else if inRuns ignored c.toNat then some []
  else
    match targets? c.toNat with
    | some codes => some (codes.map Char.ofNat)
    | none => if isPlain c then some [c] else none

/-- A name with each character replaced. -/
def name? (name : List Char) : Option (List Char) :=
  (name.mapM char?).map List.flatten

end FormFetch.Url.Mapping
