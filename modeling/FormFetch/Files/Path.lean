/-!
# Paths

The text of a path, and the names that lead to its place.
-/

namespace FormFetch.Files

/-- The path of a name inside a directory. -/
def join (directory name : String) : String :=
  if directory = "" ∨ directory.toList.getLast? = some '/' then directory ++ name
  else directory ++ "/" ++ name

/-- The parts between slashes. -/
def parts : List Char → List (List Char)
  | [] => [[]]
  | c :: rest =>
    if c = '/' then [] :: parts rest
    else
      match parts rest with
      | [] => [[c]]
      | part :: more => (c :: part) :: more

/-- One more part after the names before, which come last first. -/
def step (names : List String) (part : List Char) : List String :=
  if part = [] ∨ part = ['.'] then names
  else if part = ['.', '.'] then names.drop 1
  else String.ofList part :: names

/-- A place: whether it is counted from the root, and the names that lead to it. -/
structure Place where
  fromRoot : Bool
  names : List String
  deriving DecidableEq, Repr, BEq

/-- The place of a path. -/
def Place.of (path : String) : Place where
  fromRoot := path.toList.head? = some '/'
  names := ((parts path.toList).foldl step []).reverse

end FormFetch.Files
