/-!
# Hexadecimal digits

Bytes and numbers as lower-case hexadecimal text, and the value of one digit in
either case.
-/

namespace FormFetch.Bytes

/-- The lower-case digit of a value below 16. -/
def hexDigit (n : Nat) : Char :=
  if n < 10 then Char.ofNat ('0'.toNat + n) else Char.ofNat ('a'.toNat + (n - 10))

/-- The value of a hexadecimal digit of either case. -/
def hexValue? (c : Char) : Option Nat :=
  let n := c.toNat
  if 48 ≤ n && n ≤ 57 then some (n - 48)
  else if 97 ≤ n && n ≤ 102 then some (n - 87)
  else if 65 ≤ n && n ≤ 70 then some (n - 55)
  else none

/-- Each byte as two digits. -/
def hexChars (bytes : List UInt8) : List Char :=
  bytes.flatMap fun b => [hexDigit (b.toNat / 16), hexDigit (b.toNat % 16)]

/-- Each byte as two digits. -/
def hex (bytes : List UInt8) : String :=
  String.ofList (hexChars bytes)

/-- The digits of a number, without leading zeros. -/
def hexOfNat (n : Nat) : List Char :=
  Nat.toDigits 16 n

/-- A number on at least `width` digits. -/
def hexPadded (width n : Nat) : List Char :=
  let digits := hexOfNat n
  List.replicate (width - digits.length) '0' ++ digits

end FormFetch.Bytes
