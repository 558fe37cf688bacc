import FormFetch.Text.Runs

/-!
# Joining types of characters

Which letters of the cursive scripts take another shape beside their neighbours.  The
characters outside the table stand alone.
-/

namespace FormFetch.Url

/-- How a character joins the characters around it. -/
inductive Joining where
  | alone
  /-- Joins the character after it. -/
  | next
  /-- Joins the character before it. -/
  | previous
  | both
  /-- Makes the characters around it join, but has one shape itself. -/
  | causing
  /-- A mark, over which its neighbours join. -/
  | transparent
  deriving DecidableEq, Repr

namespace Joining

/-- The runs of characters that do not stand alone, with the numbers of their joining types. -/
def table : Array Nat := #[
  173, 1, 5, 594, 112, 5, 275, 7, 5, 263, 45, 5, 1, 1, 5, 1, 2, 5, 1, 2, 5, 1, 1, 5, 72, 11, 5, 1,
  1, 5, 3, 1, 3, 1, 4, 2, 0, 1, 3, 0, 1, 2, 0, 1, 3, 0, 1, 2, 0, 5, 3, 0, 4, 2, 0, 13, 3, 0, 1, 4,
  0, 7, 3, 0, 1, 2, 0, 2, 3, 0, 21, 5, 14, 2, 3, 0, 1, 5, 0, 3, 2, 1, 3, 2, 0, 16, 3, 0, 18, 2, 0,
  38, 3, 0, 1, 2, 0, 2, 3, 0, 9, 2, 0, 1, 3, 0, 1, 2, 0, 1, 3, 0, 1, 2, 0, 2, 3, 0, 2, 2, 1, 1, 2,
  0, 7, 5, 2, 6, 5, 2, 2, 5, 1, 4, 5, 0, 2, 2, 10, 3, 3, 2, 1, 3, 15, 1, 5, 0, 1, 2, 0, 1, 5, 0, 3,
  3, 0, 5, 2, 0, 4, 3, 0, 1, 2, 0, 9, 3, 0, 1, 2, 0, 1, 3, 0, 1, 2, 0, 1, 3, 0, 1, 2, 0, 2, 3, 0, 1,
  2, 0, 27, 5, 2, 1, 2, 0, 11, 3, 0, 3, 2, 0, 15, 3, 0, 2, 2, 0, 4, 3, 0, 1, 2, 0, 1, 3, 0, 2, 2, 0,
  3, 3, 0, 2, 2, 0, 6, 3, 38, 11, 5, 25, 33, 3, 0, 9, 5, 6, 1, 4, 2, 1, 5, 24, 4, 5, 1, 9, 5, 1, 3,
  5, 1, 5, 5, 18, 1, 2, 0, 5, 3, 0, 2, 2, 0, 1, 3, 0, 1, 2, 0, 10, 3, 0, 1, 2, 0, 1, 3, 0, 3, 2, 0,
  3, 5, 4, 1, 3, 1, 4, 3, 1, 1, 2, 0, 1, 3, 0, 2, 2, 5, 19, 2, 0, 3, 4, 0, 1, 3, 2, 5, 3, 0, 1, 2,
  9, 8, 5, 0, 10, 3, 0, 3, 2, 1, 1, 2, 0, 2, 3, 0, 2, 2, 0, 6, 3, 0, 1, 2, 0, 15, 3, 1, 24, 5, 1,
  32, 5, 55, 1, 5, 1, 1, 5, 4, 8, 5, 4, 1, 5, 3, 7, 5, 10, 2, 5, 29, 1, 5, 58, 1, 5, 4, 4, 5, 8, 1,
  5, 20, 2, 5, 26, 1, 5, 2, 2, 5, 57, 1, 5, 4, 2, 5, 4, 2, 5, 2, 3, 5, 3, 1, 5, 30, 2, 5, 3, 1, 5,
  11, 2, 5, 57, 1, 5, 4, 5, 5, 1, 2, 5, 4, 1, 5, 20, 2, 5, 22, 6, 5, 1, 1, 5, 58, 1, 5, 2, 1, 5, 1,
  4, 5, 8, 1, 5, 7, 2, 5, 11, 2, 5, 30, 1, 5, 61, 1, 5, 12, 1, 5, 50, 1, 5, 3, 1, 5, 55, 1, 5, 1, 3,
  5, 5, 3, 5, 1, 4, 5, 7, 2, 5, 11, 2, 5, 29, 1, 5, 58, 1, 5, 2, 1, 5, 6, 1, 5, 5, 2, 5, 20, 2, 5,
  28, 2, 5, 57, 2, 5, 4, 4, 5, 8, 1, 5, 20, 2, 5, 29, 1, 5, 72, 1, 5, 7, 3, 5, 1, 1, 5, 90, 1, 5, 2,
  7, 5, 12, 8, 5, 98, 1, 5, 2, 9, 5, 11, 6, 5, 74, 2, 5, 27, 1, 5, 1, 1, 5, 1, 1, 5, 55, 14, 5, 1,
  5, 5, 1, 2, 5, 5, 11, 5, 1, 36, 5, 9, 1, 5, 102, 4, 5, 1, 6, 5, 1, 2, 5, 2, 2, 5, 25, 2, 5, 4, 3,
  5, 16, 4, 5, 13, 1, 5, 2, 2, 5, 6, 1, 5, 15, 1, 5, 703, 3, 5, 946, 3, 5, 29, 2, 5, 30, 2, 5, 30,
  2, 5, 64, 2, 5, 1, 7, 5, 8, 1, 5, 2, 11, 5, 9, 1, 5, 41, 1, 3, 2, 1, 4, 0, 3, 5, 1, 1, 5, 16, 89,
  3, 12, 2, 5, 0, 34, 3, 0, 1, 5, 0, 1, 3, 117, 3, 5, 4, 2, 5, 9, 1, 5, 6, 3, 5, 219, 2, 5, 2, 1, 5,
  58, 1, 5, 1, 7, 5, 1, 1, 5, 1, 1, 5, 2, 8, 5, 6, 10, 5, 2, 1, 5, 48, 31, 5, 49, 4, 5, 48, 1, 5, 1,
  5, 5, 1, 1, 5, 5, 1, 5, 40, 9, 5, 12, 2, 5, 32, 4, 5, 2, 2, 5, 1, 3, 5, 56, 1, 5, 1, 2, 5, 3, 1,
  5, 1, 3, 5, 58, 8, 5, 2, 2, 5, 152, 3, 5, 1, 13, 5, 1, 7, 5, 4, 1, 5, 6, 1, 5, 3, 2, 5, 198, 64,
  5, 523, 1, 5, 1, 1, 4, 0, 2, 5, 26, 5, 5, 49, 5, 5, 5, 6, 5, 96, 33, 5, 3070, 3, 5, 141, 1, 5, 96,
  32, 5, 554, 4, 5, 107, 2, 5, 30164, 4, 5, 1, 10, 5, 32, 2, 5, 80, 2, 5, 272, 1, 5, 3, 1, 5, 4, 1,
  5, 25, 2, 5, 5, 1, 5, 19, 50, 3, 0, 1, 1, 81, 2, 5, 26, 18, 5, 13, 1, 5, 38, 8, 5, 25, 11, 5, 46,
  3, 5, 48, 1, 5, 2, 4, 5, 2, 2, 5, 39, 1, 5, 67, 6, 5, 2, 2, 5, 2, 2, 5, 12, 1, 5, 8, 1, 5, 47, 1,
  5, 51, 1, 5, 1, 3, 5, 2, 2, 5, 5, 2, 5, 1, 1, 5, 42, 2, 5, 8, 1, 5, 238, 1, 5, 2, 1, 5, 4, 1, 5,
  20272, 1, 5, 737, 16, 5, 16, 16, 5, 207, 1, 5, 249, 3, 5, 513, 1, 5, 226, 1, 5, 149, 5, 5, 1670,
  3, 5, 1, 2, 5, 5, 4, 5, 40, 3, 5, 4, 1, 5, 128, 5, 3, 0, 1, 2, 1, 1, 2, 1, 2, 2, 2, 1, 1, 0, 5, 2,
  0, 4, 3, 0, 1, 1, 0, 5, 3, 0, 1, 2, 0, 3, 3, 0, 1, 2, 2, 1, 2, 0, 2, 5, 4, 4, 3, 0, 1, 2, 144, 1,
  3, 0, 1, 2, 0, 1, 3, 0, 3, 2, 0, 3, 3, 0, 1, 2, 0, 2, 3, 0, 1, 2, 0, 1, 3, 0, 2, 2, 0, 1, 3, 0, 1,
  2, 23, 4, 2, 0, 2, 3, 337, 1, 1, 0, 33, 3, 0, 1, 2, 0, 1, 3, 0, 4, 5, 387, 2, 5, 131, 3, 3, 0, 1,
  2, 0, 17, 3, 1, 11, 5, 0, 3, 3, 0, 1, 2, 27, 4, 3, 0, 2, 2, 0, 12, 3, 0, 4, 5, 42, 1, 3, 1, 2, 3,
  0, 3, 2, 1, 1, 3, 0, 2, 2, 0, 2, 3, 0, 1, 2, 0, 2, 3, 1, 1, 3, 0, 2, 2, 0, 1, 3, 4, 1, 2, 0, 1, 3,
  0, 1, 1, 53, 1, 5, 54, 15, 5, 41, 1, 5, 2, 2, 5, 10, 3, 5, 49, 4, 5, 2, 2, 5, 7, 1, 5, 61, 3, 5,
  36, 5, 5, 1, 8, 5, 62, 1, 5, 12, 2, 5, 52, 9, 5, 10, 4, 5, 2, 1, 5, 95, 3, 5, 2, 1, 5, 1, 2, 5, 6,
  1, 5, 160, 1, 5, 3, 8, 5, 21, 2, 5, 57, 2, 5, 3, 1, 5, 37, 7, 5, 3, 5, 5, 195, 8, 5, 2, 3, 5, 1,
  1, 5, 23, 1, 5, 84, 6, 5, 1, 1, 5, 4, 2, 5, 1, 2, 5, 238, 4, 5, 6, 2, 5, 1, 2, 5, 27, 2, 5, 85, 8,
  5, 2, 1, 5, 1, 2, 5, 106, 1, 5, 1, 1, 5, 2, 6, 5, 1, 1, 5, 101, 3, 5, 2, 4, 5, 1, 5, 5, 259, 9, 5,
  1, 2, 5, 256, 2, 5, 1, 1, 5, 4, 1, 5, 144, 4, 5, 2, 2, 5, 4, 1, 5, 32, 10, 5, 40, 6, 5, 2, 4, 5,
  8, 1, 5, 9, 6, 5, 2, 3, 5, 46, 13, 5, 1, 2, 5, 406, 7, 5, 1, 6, 5, 1, 1, 5, 82, 22, 5, 2, 7, 5, 1,
  2, 5, 1, 2, 5, 122, 6, 5, 3, 1, 5, 1, 2, 5, 1, 7, 5, 1, 1, 5, 72, 2, 5, 3, 1, 5, 1, 1, 5, 347, 2,
  5, 5435, 9, 5, 14007, 5, 5, 59, 7, 5, 1048, 1, 5, 63, 4, 5, 81, 1, 5, 19640, 2, 5, 1, 4, 5, 4700,
  46, 5, 2, 23, 5, 544, 3, 5, 9, 16, 5, 2, 7, 5, 30, 4, 5, 148, 3, 5, 1979, 55, 5, 4, 50, 5, 8, 1,
  5, 14, 1, 5, 22, 5, 5, 1, 15, 5, 1360, 7, 5, 1, 17, 5, 2, 7, 5, 1, 2, 5, 1, 5, 5, 261, 7, 5, 375,
  1, 5, 61, 4, 5, 1504, 7, 5, 41, 68, 3, 0, 8, 5, 792245, 1, 5, 30, 96, 5, 128, 240, 5]

/-- The joining type of a number in the table. -/
def ofNumber (n : Nat) : Joining :=
  match n with
  | 1 => .next
  | 2 => .previous
  | 3 => .both
  | 4 => .causing
  | 5 => .transparent
  | _ => .alone

/-- The joining type of a character. -/
def of (c : Char) : Joining :=
  if c.toNat < 0x80 then .alone else ofNumber (Text.runValue c.toNat table.toList)

end Joining

end FormFetch.Url
