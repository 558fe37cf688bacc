/-!
# Punycode

A label of any characters written in ASCII (RFC 3492).  The ASCII characters stand
first; the others follow as a chain of numbers, each the distance to the next
insertion, in digits of base 36 whose thresholds adapt to the numbers before.

* `encode` writes a label, `decode` reads one.
-/

namespace FormFetch.Url.Punycode

/-- The character of a digit below 36. -/
def digit (n : Nat) : Char :=
  if n < 26 then Char.ofNat (97 + n) else Char.ofNat (22 + n)

/-- The value of a digit in either case. -/
def value? (c : Char) : Option Nat :=
  let n := c.toNat
  if 48 ≤ n && n ≤ 57 then some (n - 22)
  else if 97 ≤ n && n ≤ 122 then some (n - 97)
  else if 65 ≤ n && n ≤ 90 then some (n - 65)
  else none

/-- The threshold of the digit at `k`, which counts 36 for each digit. -/
def threshold (k bias : Nat) : Nat :=
  min 26 (max 1 (k - bias))

/-- Scales a distance down until it is small; `k` counts the steps by 36. -/
def settle (delta k : Nat) : Nat × Nat :=
  if 455 < delta then settle (delta / 35) (k + 36) else (delta, k)
  termination_by delta
  decreasing_by omega

/-- The bias after a distance; `count` is the number of characters so far. -/
def adapt (delta count : Nat) (first : Bool) : Nat :=
  let scaled := if first then delta / 700 else delta / 2
  let (rest, k) := settle (scaled + scaled / count) 0
  k + 36 * rest / (rest + 38)

/-! ## Writing -/

/-- The digits of a distance. -/
def digits (bias k q : Nat) : List Char :=
  let t := threshold k bias
  if _h : q < t then [digit q]
  else digit (t + (q - t) % (36 - t)) :: digits bias (k + 36) ((q - t) / (36 - t))
  termination_by q
  decreasing_by
    have h1 : 1 ≤ threshold k bias := by unfold threshold; omega
    have h2 := Nat.div_le_self (q - threshold k bias) (36 - threshold k bias)
    simp only [t] at _h ⊢
    omega

/-- The state of the writer: what is written, the distance so far, the bias and the number of
characters done. -/
structure Writer where
  out : List Char
  delta : Nat
  bias : Nat
  count : Nat

/-- One character of the label while the characters of code `code` are inserted. -/
def Writer.visit (basic code : Nat) (w : Writer) (c : Char) : Writer :=
  if c.toNat < code then { w with delta := w.delta + 1 }
  else if c.toNat = code then
    { out := w.out ++ digits w.bias 36 w.delta
      delta := 0
      bias := adapt w.delta (w.count + 1) (w.count == basic)
      count := w.count + 1 }
  else w

/-- Inserts the characters of the given codes, which ascend; `code` is the first code not done. -/
def insertCodes (label : List Char) (basic : Nat) (code : Nat) (w : Writer) :
    List Nat → List Char
  | [] => w.out
  | next :: rest =>
    let w := { w with delta := w.delta + (next - code) * (w.count + 1) }
    let w := label.foldl (Writer.visit basic next) w
    insertCodes label basic (next + 1) { w with delta := w.delta + 1 } rest

/-- The written form of a label, without a mark in front. -/
def encode (label : List Char) : List Char :=
  let basic := label.filter (·.toNat < 128)
  let codes := ((label.map Char.toNat).filter (128 ≤ ·)).eraseDups.mergeSort (· ≤ ·)
  let start := if basic.isEmpty then [] else basic ++ ['-']
  insertCodes label basic.length 128 ⟨start, 0, 72, basic.length⟩ codes

/-! ## Reading -/

/-- The distance at the head of the input, added to `sum`, and what follows it. -/
def distance? (bias k weight sum : Nat) : List Char → Option (Nat × List Char)
  | [] => none
  | c :: rest => do
    let d ← value? c
    let t := threshold k bias
    let sum := sum + d * weight
    if d < t then some (sum, rest)
    else distance? bias (k + 36) (weight * (36 - t)) sum rest

theorem length_distance? {bias k weight sum : Nat} {input rest : List Char} {n : Nat}
    (h : distance? bias k weight sum input = some (n, rest)) : rest.length < input.length := by
  induction input generalizing k weight sum with
  | nil => simp [distance?] at h
  | cons c tail ih =>
    simp only [distance?, Option.bind_eq_bind, Option.bind_eq_some_iff] at h
    obtain ⟨d, _, h⟩ := h
    split at h
    · simp only [Option.some.injEq, Prod.mk.injEq] at h
      simp [← h.2]
    · have := ih h
      simp only [List.length_cons]
      omega

/-- Inserts the characters that the input describes into `label`.  `code` and `index` are the code
and the place of the insertion before. -/
def insertAll? (bias code index : Nat) (first : Bool) (label input : List Char) :
    Option (List Char) :=
  if input.isEmpty then some label
  else
    match _h : distance? bias 36 1 index input with
    | none => none
    | some (position, rest) =>
      let count := label.length + 1
      let code := code + position / count
      let place := position % count
      if code.isValidChar then
        let label := label.take place ++ Char.ofNat code :: label.drop place
        insertAll? (adapt (position - index) count first) code (place + 1) false label rest
      else none
  termination_by input.length
  decreasing_by exact length_distance? _h

/-- The label of a written form. -/
def decode (input : List Char) : Option (List Char) :=
  let tail := (input.reverse.takeWhile (· != '-')).reverse
  let basic := (input.take (input.length - tail.length)).dropLast
  insertAll? 72 128 0 true basic tail

end FormFetch.Url.Punycode
