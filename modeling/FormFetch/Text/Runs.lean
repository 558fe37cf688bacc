/-!
# Tables of runs

A property of characters as a table of numbers.  Each run of characters with the same
value is three of them: the distance of the run from the end of the run before, its
length, and its value.  The first run begins at a distance from zero.
-/

namespace FormFetch.Text

/-- The value of a code in a table of runs; between the runs it is zero. -/
def runValue (code : Nat) : List Nat → Nat
  | distance :: length :: value :: rest =>
    if code < distance then 0
    else if code < distance + length then value
    else runValue (code - distance - length) rest
  | _ => 0

end FormFetch.Text
