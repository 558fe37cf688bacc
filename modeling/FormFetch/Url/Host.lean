import FormFetch.Text.Number
import FormFetch.Url.Domain

/-!
# Hosts

The host of an address: a domain name, or an IP address in one of its many
spellings.  `Host.parse?` reads the spellings of the URL Standard and `Host.text`
writes the one normal form of each host.
-/

namespace FormFetch.Url

/-- Where an address leads. -/
inductive Host where
  | domain (name : String)
  | ipv4 (address : Nat)
  /-- Eight pieces of sixteen bits. -/
  | ipv6 (pieces : List Nat)
  deriving DecidableEq, Repr

namespace Host

open FormFetch.Text

/-! ## IPv4 -/

/-- One number of an IPv4 address: decimal, octal after `0`, hexadecimal after `0x`.  The outer
`none` is no number, the inner one a number too large for 32 bits. -/
def number? (part : List Char) : Option (Option Nat) :=
  let (radix, digits) :=
    match part with
    | '0' :: 'x' :: rest => (16, rest)
    | '0' :: 'X' :: rest => (16, rest)
    | '0' :: c :: rest => (8, c :: rest)
    | digits => (10, digits)
  if part.isEmpty then none
  else if digits.isEmpty then some (some 0)
  else if digits.all fun c => (Number.digit? radix c).isSome then
    some (Number.natural radix Number.max32 digits).toOption
  else none

/-- The labels of a name without the empty one after a final dot. -/
def labels (name : List Char) : List (List Char) :=
  let parts := name.splitOn '.'
  if parts.getLast? == some [] then parts.dropLast else parts

/-- A name whose last label is a number has to be an IPv4 address. -/
def endsInNumber (name : List Char) : Bool :=
  match (labels name).getLast? with
  | none => false
  | some last =>
    (!last.isEmpty && last.all Char.isDigit) || (number? last).isSome

/-- The address of up to four numbers; the last one fills the bytes that the others leave. -/
def ofNumbers? (numbers : List Nat) : Option Nat :=
  match numbers.reverse with
  | [] => none
  | last :: others =>
    let high := others.reverse
    let room := Nat.pow 256 (4 - high.length)
    if 3 < high.length then none
    else if high.any (255 < ·) then none
    else if room ≤ last then none
    else some (high.foldl (fun sum n => sum * 256 + n) 0 * room + last)

/-- The address of a name that ends in a number. -/
def ipv4? (name : List Char) : Option Nat := do
  let numbers ← (labels name).mapM number?
  ofNumbers? (← numbers.mapM id)

/-- Four decimal numbers with dots. -/
def ipv4Text (address : Nat) : String :=
  s!"{address / 16777216 % 256}.{address / 65536 % 256}.{address / 256 % 256}.{address % 256}"

/-! ## IPv6 -/

/-- A decimal byte without a leading zero. -/
def decimalByte? (digits : List Char) : Option Nat :=
  match digits with
  | [] => none
  | '0' :: _ :: _ => none
  | _ => if digits.all Char.isDigit then (Number.natural 10 255 digits).toOption else none

/-- The two pieces of an IPv4 address at the end of an IPv6 address. -/
def quadPieces? (text : List Char) : Option (List Nat) := do
  match ← (text.splitOn '.').mapM decimalByte? with
  | [a, b, c, d] => some [a * 256 + b, c * 256 + d]
  | _ => none

/-- The pieces of an address, and where `::` stood among them.  `pieces` and `gap` are what has been
read. -/
def pieces? (pieces : List Nat) (gap : Option Nat) (input : List Char) :
    Option (List Nat × Option Nat) :=
  match input with
  | [] => some (pieces, gap)
  | ':' :: rest =>
    if pieces.length = 8 ∨ gap.isSome then none
    else pieces? (pieces ++ [0]) (some (pieces.length + 1)) rest
  | first :: more =>
    if pieces.length = 8 then none
    else
      let digits := (input.take 4).takeWhile fun c => (Bytes.hexValue? c).isSome
      match (Bytes.hexValue? first).isSome, input.drop digits.length with
      | true, '.' :: _ =>
        if 6 < pieces.length then none
        else (quadPieces? input).map fun tail => (pieces ++ tail, gap)
      | true, [':'] => none
      | true, ':' :: _ =>
        pieces? (pieces ++ [value digits]) gap (more.drop digits.length)
      | true, [] => some (pieces ++ [value digits], gap)
      | _, _ => none
  termination_by input.length
  decreasing_by
    all_goals simp only [List.length_cons, List.length_drop]; omega
where
  /-- The number of hexadecimal digits. -/
  value (digits : List Char) : Nat :=
    (Number.natural 16 65535 digits).toOption.getD 0

/-- The pieces of an address of which the two colons at `gap` stand for as many zeros as are
missing. -/
def fill? (pieces : List Nat) (gap : Option Nat) : Option (List Nat) :=
  match gap with
  | some gap => some (pieces.take gap ++ List.replicate (8 - pieces.length) 0 ++ pieces.drop gap)
  | none => if pieces.length = 8 then some pieces else none

/-- The address between brackets. -/
def ipv6? (text : List Char) : Option (List Nat) := do
  let (pieces, gap) ← match text with
    | ':' :: ':' :: rest => pieces? [0] (some 1) rest
    | ':' :: _ => none
    | [] | [_] => none
    | _ => pieces? [] none text
  fill? pieces gap

/-- The number of zeros at the start of a list. -/
def leadingZeros (pieces : List Nat) : Nat :=
  (pieces.takeWhile (· == 0)).length

/-- The first of the longest runs of zeros, as its start and its length. -/
def longestRun (pieces : List Nat) : Nat × Nat :=
  (List.range pieces.length).foldl
    (fun best i =>
      let run := leadingZeros (pieces.drop i)
      if best.2 < run then (i, run) else best)
    (0, 0)

/-- Pieces in hexadecimal, with colons between them. -/
def joinPieces (pieces : List Nat) : List Char :=
  [':'].intercalate (pieces.map Bytes.hexOfNat)

/-- The normal form of an address: its longest run of at least two zeros is left out. -/
def ipv6Text (pieces : List Nat) : List Char :=
  let (start, run) := longestRun pieces
  if run < 2 then joinPieces pieces
  else
    joinPieces (pieces.take start) ++ "::".toList ++ joinPieces (pieces.drop (start + run))

/-! ## All hosts -/

/-- The normal form of a host. -/
def text : Host → String
  | .domain name => name
  | .ipv4 address => ipv4Text address
  | .ipv6 pieces => String.ofList ('[' :: ipv6Text pieces ++ [']'])

/-- Reads a host as it stands in an address. -/
def parse? (input : List Char) : Option Host :=
  match input with
  | '[' :: inside =>
    if inside.getLast? == some ']' then (ipv6? inside.dropLast).map .ipv6 else none
  | _ => do
    let name ← Domain.ofEncoded? input
    if name.isEmpty then none
    else if endsInNumber name then (ipv4? name).map .ipv4
    else some (.domain (String.ofList name))

end Host

end FormFetch.Url
