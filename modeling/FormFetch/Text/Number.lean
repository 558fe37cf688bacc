import FormFetch.Bytes.Hex

/-!
# Numbers in text

Whole numbers within a range, read digit by digit.  Of two faults in one numeral
the one that comes first in the text is reported, and a numeral that leaves the
range is reported at the digit that leaves it.

* `natural` reads an unsigned numeral, `integer` a signed one.
-/

namespace FormFetch.Text.Number

/-- The greatest number of 32 bits. -/
def max32 : Nat :=
  0xFFFFFFFF

/-- The greatest number of 64 bits. -/
def max64 : Nat :=
  0xFFFFFFFFFFFFFFFF

/-- Why a text is not a number of the wanted range. -/
inductive Fault where
  | empty
  | invalidDigit
  | tooLarge
  | tooSmall
  deriving DecidableEq, Repr

/-- The report of a fault. -/
def Fault.message : Fault → String
  | .empty => "cannot parse integer from empty string"
  | .invalidDigit => "invalid digit found in string"
  | .tooLarge => "number too large to fit in target type"
  | .tooSmall => "number too small to fit in target type"

/-- The value of a digit in a radix up to 16. -/
def digit? (radix : Nat) (c : Char) : Option Nat :=
  (Bytes.hexValue? c).filter (· < radix)

/-- The number whose leading digits are worth `sum`, or `beyond` when it passes `limit`. -/
def accumulate (radix limit : Nat) (beyond : Fault) (sum : Nat) : List Char → Except Fault Nat
  | [] => .ok sum
  | c :: rest =>
    match digit? radix c with
    | none => .error .invalidDigit
    | some d =>
      if limit < sum * radix + d then .error beyond
      else accumulate radix limit beyond (sum * radix + d) rest

/-- An unsigned numeral up to `limit`, which may start with a plus sign. -/
def natural (radix limit : Nat) : List Char → Except Fault Nat
  | [] => .error .empty
  | ['+'] | ['-'] => .error .invalidDigit
  | '+' :: rest => accumulate radix limit .tooLarge 0 rest
  | digits => accumulate radix limit .tooLarge 0 digits

/-- A signed decimal numeral from `-limit - 1` up to `limit`. -/
def integer (limit : Nat) : List Char → Except Fault Int
  | [] => .error .empty
  | ['+'] | ['-'] => .error .invalidDigit
  | '-' :: rest => (accumulate 10 (limit + 1) .tooSmall 0 rest).map fun n => -(n : Int)
  | '+' :: rest => (accumulate 10 limit .tooLarge 0 rest).map fun n => (n : Int)
  | digits => (accumulate 10 limit .tooLarge 0 digits).map fun n => (n : Int)

end FormFetch.Text.Number
