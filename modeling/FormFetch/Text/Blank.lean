/-!
# Blank characters and trimming

The white space of Unicode, and text without its blank ends.  Every part of the
library that trims a user's text trims by `isBlank`; the formats that know only
ASCII white space say so where they are read.

* `trimStart_idem`, `trimEnd_idem`: trimming twice is trimming once.
-/

namespace FormFetch.Text

/-- The characters with the Unicode property White_Space. -/
def isBlank (c : Char) : Bool :=
  let n := c.toNat
  (0x09 ≤ n && n ≤ 0x0D) || n == 0x20 || n == 0x85 || n == 0xA0 || n == 0x1680 ||
    (0x2000 ≤ n && n ≤ 0x200A) || n == 0x2028 || n == 0x2029 || n == 0x202F ||
    n == 0x205F || n == 0x3000

/-- Text without its leading blanks. -/
def trimStart (cs : List Char) : List Char :=
  cs.dropWhile isBlank

/-- A list without its longest tail of elements that satisfy `p`. -/
def dropEndWhile {α : Type} (p : α → Bool) (xs : List α) : List α :=
  (xs.reverse.dropWhile p).reverse

/-- Text without its trailing blanks. -/
def trimEnd (cs : List Char) : List Char :=
  dropEndWhile isBlank cs

/-- Text without its blank ends. -/
def trim (cs : List Char) : List Char :=
  trimEnd (trimStart cs)

/-- A string without its blank ends. -/
def trimmed (s : String) : String :=
  String.ofList (trim s.toList)

/-- A string of blanks only, or the empty string. -/
def blank (s : String) : Bool :=
  s.toList.all isBlank

/-- Equality up to the case of ASCII letters. -/
def sameIgnoringCase (s t : String) : Bool :=
  s.toList.map Char.toLower == t.toList.map Char.toLower

/-- A string with its ASCII letters in lower case. -/
def lower (s : String) : String :=
  String.ofList (s.toList.map Char.toLower)

/-- A string with its ASCII letters in upper case. -/
def upper (s : String) : String :=
  String.ofList (s.toList.map Char.toUpper)

theorem dropWhile_idem {α : Type} (p : α → Bool) (xs : List α) :
    (xs.dropWhile p).dropWhile p = xs.dropWhile p := by
  induction xs with
  | nil => rfl
  | cons x rest ih =>
    by_cases h : p x
    · simp [h, ih]
    · simp [h]

@[simp] theorem trimStart_idem (cs : List Char) : trimStart (trimStart cs) = trimStart cs :=
  dropWhile_idem isBlank cs

@[simp] theorem trimEnd_idem (cs : List Char) : trimEnd (trimEnd cs) = trimEnd cs := by
  simp [trimEnd, dropEndWhile, dropWhile_idem]

end FormFetch.Text
