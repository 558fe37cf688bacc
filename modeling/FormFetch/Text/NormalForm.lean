import FormFetch.Text.Composition

/-!
# The composed normal form

One spelling for each of the texts that Unicode calls canonically equivalent
(normalization form C): every character is taken apart, the marks of one character
are put in the order of their classes, and what combines is combined again.
-/

namespace FormFetch.Text.NormalForm

open FormFetch.Text.Composition

/-! ## Hangul

A syllable is a leading consonant, a vowel and perhaps a trailing consonant, and its code is
counted from the three. -/

/-- The parts of the syllable with a code, or nothing for another code. -/
def syllableParts (code : Nat) : Option (Nat × Nat) :=
  if 0xAC00 ≤ code ∧ code < 0xD7A4 then
    let place := code - 0xAC00
    if place % 28 = 0 then some (0x1100 + place / 588, 0x1161 + place / 28 % 21)
    else some (code - place % 28, 0x11A7 + place % 28)
  else none

/-- The syllable of a leading consonant and a vowel, or of a syllable without a trailing consonant
and such a consonant. -/
def syllable? (first second : Nat) : Option Nat :=
  if 0x1100 ≤ first ∧ first < 0x1113 ∧ 0x1161 ≤ second ∧ second < 0x1176 then
    some (0xAC00 + ((first - 0x1100) * 21 + (second - 0x1161)) * 28)
  else if 0xAC00 ≤ first ∧ first < 0xD7A4 ∧ (first - 0xAC00) % 28 = 0 ∧
      0x11A8 ≤ second ∧ second < 0x11C3 then
    some (first + (second - 0x11A7))
  else none

/-! ## Pairs -/

/-- The two codes that a code is combined from. -/
def parts? (code : Nat) : Option (Nat × Nat) :=
  (syllableParts code).or (partsIn code pairTable.toList)

/-- The character that two characters combine into. -/
def combine? (first second : Char) : Option Char :=
  ((syllable? first.toNat second.toNat).or
    (pairIn first.toNat second.toNat pairTable.toList)).map Char.ofNat

/-! ## The three steps -/

/-- The codes that a code is combined from in the end; `depth` bounds how often one is taken
apart. -/
def takeApart (depth code : Nat) : List Nat :=
  match depth with
  | 0 => [code]
  | depth + 1 =>
    match parts? code with
    | none => [code]
    | some (first, second) => takeApart depth first ++ [second]

/-- A text with every character taken apart; none is combined more than four times. -/
def decompose (text : List Char) : List Char :=
  text.flatMap fun c => (takeApart 4 c.toNat).map Char.ofNat

/-- Puts a mark behind the marks of lower class at the head of a text.  A character that is no mark
stays where it is. -/
def place (c : Char) : List Char → List Char
  | [] => [c]
  | d :: rest =>
    if 0 < combiningClass d ∧ combiningClass d < combiningClass c then d :: place c rest
    else c :: d :: rest

/-- A text with the marks of each character in the order of their classes. -/
def reorder (text : List Char) : List Char :=
  text.foldr place []

/-- Combines what follows a character.  `kept` are the marks that did not combine with it, and
`last` is the class of the last of them, behind which a mark of no higher class cannot combine. -/
def gather (start : Char) (kept : List Char) (last : Nat) : List Char → List Char
  | [] => start :: kept
  | c :: rest =>
    match if kept.isEmpty || last < combiningClass c then combine? start c else none with
    | some combined => gather combined kept last rest
    | none =>
      if combiningClass c = 0 then start :: kept ++ gather c [] 0 rest
      else gather start (kept ++ [c]) (combiningClass c) rest

/-- A text whose characters are combined where they can be. -/
def combine : List Char → List Char
  | [] => []
  | c :: rest => if combiningClass c = 0 then gather c [] 0 rest else c :: combine rest

/-- The composed normal form of a text. -/
def compose (text : List Char) : List Char :=
  combine (reorder (decompose text))

end FormFetch.Text.NormalForm
