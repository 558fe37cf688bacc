import FormFetch.Text.Runs

/-!
# Writing directions of characters

The characters outside ASCII that are not written from left to right.
-/

namespace FormFetch.Url

/-- How a character takes part in the direction of a text. -/
inductive Direction where
  /-- Written from left to right. -/
  | left
  /-- Written from right to left. -/
  | right
  | arabicNumber
  | number
  /-- A mark, which follows its character. -/
  | mark
  | neutral
  deriving DecidableEq, Repr

namespace Direction

/-- The runs of characters that are not written from left to right, with the numbers of their
directions. -/
def table : Array Nat := #[
  161, 9, 5, 1, 2, 5, 1, 4, 5, 0, 2, 3, 0, 1, 5, 1, 3, 5, 0, 1, 3, 1, 5, 5, 23, 1, 5, 31, 1, 5,
  449, 2, 5, 7, 14, 5, 2, 14, 5, 5, 9, 5, 1, 17, 5, 0, 112, 4, 4, 2, 5, 8, 1, 5, 5, 2, 5, 1, 1, 5,
  110, 1, 5, 140, 7, 4, 256, 1, 5, 2, 3, 5, 1, 45, 4, 0, 1, 1, 0, 1, 4, 0, 1, 1, 0, 2, 4, 0, 1, 1,
  0, 2, 4, 0, 1, 1, 0, 1, 4, 8, 27, 1, 4, 6, 1, 17, 2, 5, 0, 1, 1, 0, 2, 5, 0, 1, 1, 0, 1, 5, 0,
  1, 1, 0, 2, 5, 0, 11, 4, 0, 1, 1, 1, 46, 1, 0, 21, 4, 0, 10, 2, 0, 1, 5, 0, 2, 2, 0, 3, 1, 0, 1,
  4, 0, 101, 1, 0, 7, 4, 1, 1, 5, 0, 6, 4, 0, 2, 1, 0, 2, 4, 0, 1, 5, 0, 4, 4, 0, 2, 1, 0, 10, 3,
  0, 20, 1, 2, 1, 1, 0, 1, 4, 0, 30, 1, 0, 27, 4, 2, 89, 1, 0, 11, 4, 0, 1, 1, 14, 43, 1, 0, 9, 4,
  0, 2, 1, 0, 4, 5, 0, 1, 1, 2, 1, 4, 0, 24, 1, 0, 4, 4, 0, 1, 1, 0, 9, 4, 0, 1, 1, 0, 3, 4, 0, 1,
  1, 0, 5, 4, 2, 15, 1, 1, 25, 1, 0, 3, 4, 2, 1, 1, 1, 11, 1, 5, 31, 1, 9, 8, 4, 0, 42, 1, 0, 24,
  4, 1, 32, 4, 55, 1, 4, 1, 1, 4, 4, 8, 4, 4, 1, 4, 3, 7, 4, 10, 2, 4, 29, 1, 4, 58, 1, 4, 4, 4,
  4, 8, 1, 4, 20, 2, 4, 14, 2, 5, 7, 1, 5, 2, 1, 4, 2, 2, 4, 57, 1, 4, 4, 2, 4, 4, 2, 4, 2, 3, 4,
  3, 1, 4, 30, 2, 4, 3, 1, 4, 11, 2, 4, 57, 1, 4, 4, 5, 4, 1, 2, 4, 4, 1, 4, 20, 2, 4, 13, 1, 5,
  8, 6, 4, 1, 1, 4, 58, 1, 4, 2, 1, 4, 1, 4, 4, 8, 1, 4, 7, 2, 4, 11, 2, 4, 30, 1, 4, 61, 1, 4,
  12, 1, 4, 37, 8, 5, 5, 1, 4, 3, 1, 4, 55, 1, 4, 1, 3, 4, 5, 3, 4, 1, 4, 4, 7, 2, 4, 11, 2, 4,
  20, 7, 5, 2, 1, 4, 58, 1, 4, 15, 2, 4, 20, 2, 4, 28, 2, 4, 57, 2, 4, 4, 4, 4, 8, 1, 4, 20, 2, 4,
  29, 1, 4, 72, 1, 4, 7, 3, 4, 1, 1, 4, 90, 1, 4, 2, 7, 4, 4, 1, 5, 7, 8, 4, 98, 1, 4, 2, 9, 4,
  11, 6, 4, 74, 2, 4, 27, 1, 4, 1, 1, 4, 1, 1, 4, 0, 4, 5, 51, 14, 4, 1, 5, 4, 1, 2, 4, 5, 11, 4,
  1, 36, 4, 9, 1, 4, 102, 4, 4, 1, 6, 4, 1, 2, 4, 2, 2, 4, 25, 2, 4, 4, 3, 4, 16, 4, 4, 13, 1, 4,
  2, 2, 4, 6, 1, 4, 15, 1, 4, 703, 3, 4, 48, 10, 5, 102, 1, 5, 666, 2, 5, 117, 3, 4, 29, 2, 4, 30,
  2, 4, 30, 2, 4, 64, 2, 4, 1, 7, 4, 8, 1, 4, 2, 11, 4, 7, 1, 5, 1, 1, 4, 18, 10, 5, 6, 11, 5, 0,
  3, 4, 1, 1, 4, 117, 2, 4, 34, 1, 4, 118, 3, 4, 4, 2, 4, 9, 1, 4, 6, 3, 4, 4, 1, 5, 3, 2, 5, 152,
  34, 5, 23, 2, 4, 2, 1, 4, 58, 1, 4, 1, 7, 4, 1, 1, 4, 1, 1, 4, 2, 8, 4, 6, 10, 4, 2, 1, 4, 48,
  31, 4, 49, 4, 4, 48, 1, 4, 1, 5, 4, 1, 1, 4, 5, 1, 4, 40, 9, 4, 12, 2, 4, 32, 4, 4, 2, 2, 4, 1,
  3, 4, 56, 1, 4, 1, 2, 4, 3, 1, 4, 1, 3, 4, 58, 8, 4, 2, 2, 4, 152, 3, 4, 1, 13, 4, 1, 7, 4, 4,
  1, 4, 6, 1, 4, 3, 2, 4, 198, 64, 4, 445, 1, 5, 1, 3, 5, 11, 3, 5, 13, 3, 5, 13, 3, 5, 13, 2, 5,
  13, 2, 5, 2, 24, 5, 8, 47, 5, 17, 1, 3, 3, 6, 3, 0, 5, 5, 1, 10, 3, 0, 5, 5, 17, 33, 5, 15, 33,
  4, 15, 2, 5, 1, 4, 5, 1, 2, 5, 10, 1, 5, 1, 3, 5, 5, 6, 5, 1, 1, 5, 1, 1, 5, 1, 1, 5, 4, 1, 5,
  11, 2, 5, 4, 5, 5, 5, 4, 5, 2, 16, 5, 41, 3, 5, 4, 422, 5, 69, 26, 5, 1, 145, 5, 25, 11, 5, 21,
  40, 5, 0, 20, 3, 78, 450, 5, 1, 339, 5, 256, 628, 5, 2, 32, 5, 1, 105, 5, 229, 6, 5, 4, 3, 4, 7,
  7, 5, 127, 1, 4, 96, 32, 4, 0, 94, 5, 34, 26, 5, 1, 89, 5, 12, 214, 5, 26, 12, 5, 5, 4, 5, 3,
  25, 5, 9, 4, 4, 2, 1, 5, 5, 2, 5, 5, 3, 5, 89, 2, 4, 0, 2, 5, 3, 1, 5, 90, 1, 5, 196, 36, 5, 57,
  2, 5, 49, 16, 5, 28, 3, 5, 50, 15, 5, 12, 4, 5, 167, 4, 5, 99, 2, 5, 31, 1, 5, 6592, 64, 5,
  22160, 55, 5, 326, 3, 5, 95, 4, 4, 0, 1, 5, 0, 10, 4, 0, 2, 5, 30, 2, 4, 80, 2, 4, 14, 34, 5,
  102, 1, 5, 121, 1, 4, 3, 1, 4, 4, 1, 4, 25, 2, 4, 1, 4, 5, 0, 1, 4, 11, 2, 5, 58, 4, 5, 76, 2,
  4, 26, 18, 4, 13, 1, 4, 38, 8, 4, 25, 11, 4, 46, 3, 4, 48, 1, 4, 2, 4, 4, 2, 2, 4, 39, 1, 4, 67,
  6, 4, 2, 2, 4, 2, 2, 4, 12, 1, 4, 8, 1, 4, 47, 1, 4, 51, 1, 4, 1, 3, 4, 2, 2, 4, 5, 2, 4, 1, 1,
  4, 42, 2, 4, 8, 1, 4, 115, 2, 5, 121, 1, 4, 2, 1, 4, 4, 1, 4, 20271, 1, 1, 0, 1, 4, 0, 10, 1, 0,
  1, 5, 0, 13, 1, 1, 5, 1, 1, 1, 1, 1, 2, 1, 1, 2, 1, 1, 125, 1, 16, 363, 1, 0, 18, 5, 0, 64, 1,
  2, 54, 1, 7, 1, 5, 32, 13, 1, 0, 3, 5, 0, 16, 4, 0, 10, 5, 6, 16, 4, 0, 35, 5, 1, 19, 5, 1, 4,
  5, 4, 5, 1, 1, 135, 1, 4, 15, 5, 0, 10, 3, 0, 7, 5, 26, 6, 5, 26, 11, 5, 122, 7, 5, 1, 7, 5, 13,
  2, 5, 259, 1, 5, 62, 77, 5, 3, 13, 5, 3, 1, 5, 92, 1, 4, 226, 1, 4, 0, 27, 3, 122, 5, 4, 1157,
  6, 1, 2, 1, 1, 1, 44, 1, 1, 2, 1, 3, 1, 1, 2, 23, 1, 1, 72, 1, 8, 9, 1, 48, 19, 1, 1, 2, 1, 5,
  33, 1, 3, 1, 5, 0, 26, 1, 5, 1, 1, 64, 56, 1, 4, 20, 1, 2, 47, 1, 0, 3, 4, 1, 2, 4, 5, 4, 4, 0,
  4, 1, 1, 3, 1, 1, 29, 1, 2, 3, 4, 4, 1, 4, 0, 9, 1, 7, 9, 1, 7, 64, 1, 32, 37, 1, 0, 2, 4, 4,
  12, 1, 9, 54, 1, 3, 7, 5, 0, 22, 1, 2, 27, 1, 5, 26, 1, 7, 4, 1, 12, 7, 1, 80, 73, 1, 55, 51, 1,
  13, 51, 1, 7, 42, 1, 0, 4, 4, 8, 10, 2, 294, 31, 2, 1, 42, 1, 1, 2, 4, 0, 1, 1, 2, 2, 1, 78, 40,
  1, 8, 22, 1, 0, 11, 4, 0, 9, 1, 22, 18, 1, 0, 4, 4, 0, 4, 1, 38, 28, 1, 20, 23, 1, 10, 1, 4, 54,
  15, 4, 11, 20, 5, 10, 1, 4, 2, 2, 4, 10, 3, 4, 49, 4, 4, 2, 2, 4, 7, 1, 4, 61, 3, 4, 36, 5, 4,
  1, 8, 4, 62, 1, 4, 12, 2, 4, 52, 9, 4, 10, 4, 4, 2, 1, 4, 95, 3, 4, 2, 1, 4, 1, 2, 4, 6, 1, 4,
  160, 1, 4, 3, 8, 4, 21, 2, 4, 57, 2, 4, 3, 1, 4, 37, 7, 4, 3, 5, 4, 195, 8, 4, 2, 3, 4, 1, 1, 4,
  23, 1, 4, 84, 6, 4, 1, 1, 4, 4, 2, 4, 1, 2, 4, 238, 4, 4, 6, 2, 4, 1, 2, 4, 27, 2, 4, 85, 8, 4,
  2, 1, 4, 1, 2, 4, 31, 13, 5, 62, 1, 4, 1, 1, 4, 2, 6, 4, 1, 1, 4, 101, 3, 4, 2, 4, 4, 1, 5, 4,
  259, 9, 4, 1, 2, 4, 256, 2, 4, 1, 1, 4, 4, 1, 4, 144, 4, 4, 2, 2, 4, 4, 1, 4, 32, 6, 4, 2, 2, 4,
  40, 6, 4, 2, 4, 4, 8, 1, 4, 9, 6, 4, 2, 3, 4, 46, 13, 4, 1, 2, 4, 406, 7, 4, 1, 6, 4, 84, 22, 4,
  2, 7, 4, 1, 2, 4, 1, 2, 4, 122, 6, 4, 3, 1, 4, 1, 2, 4, 1, 7, 4, 1, 1, 4, 72, 2, 4, 3, 1, 4, 1,
  1, 4, 347, 2, 4, 224, 29, 5, 19198, 5, 4, 59, 7, 4, 1048, 1, 4, 63, 4, 4, 79, 1, 5, 1, 1, 4,
  19640, 2, 4, 4705, 46, 4, 2, 23, 4, 544, 3, 4, 17, 8, 4, 2, 7, 4, 30, 4, 4, 59, 2, 5, 21, 66, 5,
  0, 3, 4, 0, 1, 5, 186, 87, 5, 900, 1, 5, 57, 1, 5, 57, 1, 5, 57, 1, 5, 57, 1, 5, 10, 50, 3, 512,
  55, 4, 4, 50, 4, 8, 1, 4, 14, 1, 4, 22, 5, 4, 1, 15, 4, 1360, 7, 4, 1, 17, 4, 2, 7, 4, 1, 2, 4,
  1, 5, 4, 261, 7, 4, 375, 1, 4, 61, 4, 4, 15, 1, 5, 1280, 197, 1, 2, 9, 1, 0, 7, 4, 41, 68, 1, 0,
  7, 4, 0, 1, 1, 4, 10, 1, 4, 2, 1, 785, 68, 1, 76, 61, 1, 194, 4, 1, 1, 27, 1, 1, 2, 1, 1, 1, 1,
  2, 1, 1, 1, 10, 1, 1, 4, 1, 1, 1, 1, 1, 1, 1, 6, 1, 1, 4, 1, 1, 1, 1, 1, 1, 1, 1, 1, 3, 1, 1, 2,
  1, 1, 1, 1, 2, 1, 1, 1, 1, 1, 1, 1, 1, 1, 1, 1, 1, 1, 1, 1, 2, 1, 1, 1, 1, 2, 4, 1, 1, 7, 1, 1,
  4, 1, 1, 4, 1, 1, 1, 1, 1, 10, 1, 1, 17, 1, 5, 3, 1, 1, 5, 1, 1, 17, 1, 52, 2, 5, 270, 44, 5, 4,
  100, 5, 12, 15, 5, 2, 15, 5, 1, 15, 5, 1, 37, 5, 10, 11, 3, 0, 5, 5, 31, 1, 5, 58, 6, 5, 61, 1,
  5, 178, 6, 5, 154, 984, 5, 5, 16, 5, 3, 13, 5, 3, 116, 5, 12, 89, 5, 7, 12, 5, 4, 1, 5, 15, 12,
  5, 4, 56, 5, 8, 10, 5, 6, 40, 5, 8, 30, 5, 2, 2, 5, 78, 340, 5, 12, 14, 5, 2, 5, 5, 3, 5, 5, 3,
  7, 5, 9, 29, 5, 3, 11, 5, 5, 6, 5, 10, 10, 5, 6, 8, 5, 8, 7, 5, 9, 147, 5, 1, 55, 5, 37, 10, 3,
  787718, 240, 4]

/-- The direction of a number in the table. -/
def ofNumber (n : Nat) : Direction :=
  match n with
  | 0 => .left
  | 1 => .right
  | 2 => .arabicNumber
  | 3 => .number
  | 4 => .mark
  | _ => .neutral

/-- The direction of a character. -/
def of (c : Char) : Direction :=
  if c.isAlpha then .left
  else if c.isDigit then .number
  else if c.toNat < 0x80 then .neutral
  else ofNumber (Text.runValue c.toNat table.toList)

end Direction

end FormFetch.Url
