/-!
# Shortest decimals

The decimal text of a floating-point number: the fewest digits that read back to
the same number, and of those the nearest to it.

* `digits` finds the digits, in exact arithmetic.
* `text` lays them out: positional between `1e-5` and `1e16`, otherwise with an
  exponent; a whole number keeps a `.0`.
-/

namespace FormFetch.Text.Shortest

/-- A positive number `mantissa * 2 ^ exponent`, as a 64-bit float stores it. -/
structure Binary where
  mantissa : Nat
  exponent : Int
  deriving DecidableEq, Repr

/-- The least mantissa of a number with a full mantissa, `2 ^ 52`. -/
def full : Nat :=
  0x10000000000000

/-- The stored form of a finite number's absolute value. -/
def Binary.ofFloat (x : Float) : Binary :=
  let bits : Nat := x.toBits.toNat
  let fraction : Nat := bits % full
  let field : Nat := bits / full % 0x800
  if field = 0 then ⟨fraction, -1074⟩ else ⟨fraction + full, (field : Int) - 1075⟩

/-- A quotient of natural numbers, `numerator * 10 ^ -exponent` over a power of two, so that numbers
of one size compare exactly. -/
def scale (mantissa : Nat) (binary decimal : Int) : Nat × Nat :=
  (mantissa * Nat.pow 2 binary.toNat * Nat.pow 10 (-decimal).toNat,
    Nat.pow 2 (-binary).toNat * Nat.pow 10 decimal.toNat)

/-- The exponent of the leading decimal digit of a positive number. -/
def leading (b : Binary) : Int :=
  let holds := fun k : Nat =>
    let (n, d) := scale b.mantissa b.exponent ((k : Int) - 330)
    d ≤ n && n < 10 * d
  (((List.range 660).find? holds).getD 0 : Int) - 330

/-- The number of grid steps of `10 ^ decimal` nearest to `b`, if it reads back as `b`.  Four times
the mantissa makes room for the halves that bound the interval of reals that read back. -/
def onGrid? (b : Binary) (decimal : Int) : Option Nat :=
  let (n, d) := scale (4 * b.mantissa) (b.exponent - 2) decimal
  let (low, _) :=
    scale (4 * b.mantissa - (if b.mantissa = full ∧ -1074 < b.exponent then 1 else 2))
      (b.exponent - 2) decimal
  let (high, _) := scale (4 * b.mantissa + 2) (b.exponent - 2) decimal
  let closed := b.mantissa % 2 = 0
  let inside := fun step : Nat =>
    (low < step * d || (closed && low == step * d)) &&
      (step * d < high || (closed && step * d == high))
  let below := n / d
  let near := if 2 * (n % d) < d ∨ (2 * (n % d) = d ∧ below % 2 = 0) then below else below + 1
  let far := if near = below then below + 1 else below
  [near, far].find? inside

/-- The fewest digits that read back, as a whole number and the power of ten that scales it. -/
def digits (b : Binary) : Nat × Int :=
  let top := leading b
  ((List.range 18).findSome? fun (i : Nat) =>
    let decimal := top - (i : Int)
    (onGrid? b decimal).map fun step => (step, decimal)).getD (0, 0)

/-- A whole number without the zeros at its end, which move into the power of ten. -/
def withoutZeros (fuel n : Nat) (decimal : Int) : Nat × Int :=
  match fuel with
  | 0 => (n, decimal)
  | fuel + 1 =>
    if n ≠ 0 ∧ n % 10 = 0 then withoutZeros fuel (n / 10) (decimal + 1) else (n, decimal)

/-- The layout of digits: where the point goes, and when an exponent is written. -/
def layout (n : Nat) (decimal : Int) : String :=
  let ds := Nat.toDigits 10 n
  let point := (ds.length : Int) + decimal
  let zeros := fun (k : Int) => List.replicate k.toNat '0'
  if 0 ≤ decimal ∧ point ≤ 16 then String.ofList (ds ++ zeros decimal ++ ['.', '0'])
  else if 0 < point ∧ point ≤ 16 then
    String.ofList (ds.take point.toNat ++ '.' :: ds.drop point.toNat)
  else if -5 < point ∧ point ≤ 0 then
    String.ofList ('0' :: '.' :: zeros (-point) ++ ds)
  else
    let tail := if ds.length = 1 then [] else '.' :: ds.drop 1
    s!"{String.ofList (ds.take 1 ++ tail)}e{point - 1}"

/-- The text of a finite number. -/
def text (x : Float) : String :=
  let sign := if 0x8000000000000000 ≤ x.toBits.toNat then "-" else ""
  let b := Binary.ofFloat x
  if b.mantissa = 0 then sign ++ "0.0"
  else
    let (n, decimal) := digits b
    let (n, decimal) := withoutZeros 20 n decimal
    sign ++ layout n decimal

end FormFetch.Text.Shortest
