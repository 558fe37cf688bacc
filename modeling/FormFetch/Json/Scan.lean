import FormFetch.Bytes.Hex
import FormFetch.Json.Fault
import FormFetch.Text.Number
import FormFetch.Text.Shortest
import FormFetch.Text.Utf8

/-!
# JSON tokens

The parts of a JSON text, each read from the bytes that are left: blanks, words,
strings, numbers, and whole values that are skipped.

A reader returns what it found and the bytes after it, or a `Failure`.  A failure
reported `here` is placed in front of the bytes that are left, one reported
`beyond` behind the first of them.

* `length_readEscape`: an escape never lengthens what is left.
-/

namespace FormFetch.Json

open FormFetch.Text

/-- A failure in front of `rest`. -/
def here (fault : Fault) (rest : List UInt8) : Failure :=
  ⟨fault, rest.length⟩

/-- A failure behind the first byte of `rest`, if there is one. -/
def beyond (fault : Fault) (rest : List UInt8) : Failure :=
  ⟨fault, rest.length - 1⟩

/-- The byte of an ASCII character. -/
def byte (c : Char) : UInt8 :=
  c.toNat.toUInt8

/-- Blanks between tokens. -/
def isSpace (b : UInt8) : Bool :=
  b == 0x20 || b == 0x0A || b == 0x09 || b == 0x0D

/-- The bytes after the blanks. -/
def skipSpace (input : List UInt8) : List UInt8 :=
  input.dropWhile isSpace

/-- A decimal digit. -/
def isDigit (b : UInt8) : Bool :=
  0x30 ≤ b && b ≤ 0x39

/-- The rest of a word like `null`, of which the first letter is read. -/
def readWord (word : List Char) (input : List UInt8) : Except Failure (List UInt8) :=
  match word, input with
  | [], _ => .ok input
  | _ :: _, [] => .error (here .endInValue input)
  | c :: more, b :: rest =>
    if b = byte c then readWord more rest else .error (here .expectedIdent rest)

/-! ## Strings -/

/-- Four hexadecimal digits. -/
def readHex (input : List UInt8) : Except Failure (Nat × List UInt8) :=
  match input with
  | a :: b :: c :: d :: rest =>
    match [a, b, c, d].mapM fun x => Bytes.hexValue? (Char.ofNat x.toNat) with
    | some digits => .ok (digits.foldl (fun n d => n * 16 + d) 0, rest)
    | none => .error (here .invalidEscape rest)
  | _ => .error (here .endInString [])

/-- The second half of a pair of `\u` escapes, from its backslash on; `first` is the unit before. -/
def readPair (first : Nat) (input : List UInt8) : Except Failure (Char × List UInt8) :=
  match input with
  | [] => .error (here .endInString input)
  | [slash] =>
    .error (if slash = byte '\\' then here .endInString [] else here .endOfHexEscape [])
  | slash :: mark :: rest =>
    if slash ≠ byte '\\' then .error (here .endOfHexEscape (mark :: rest))
    else if mark ≠ byte 'u' then .error (here .endOfHexEscape rest)
    else
      match readHex rest with
      | .error failure => .error failure
      | .ok (second, rest) =>
        if second < 0xDC00 ∨ 0xDFFF < second then .error (here .loneSurrogate rest)
        else .ok (Char.ofNat (0x10000 + (first - 0xD800) * 1024 + (second - 0xDC00)), rest)

/-- The character of a `\u` escape after its mark: one unit, or two that form a pair. -/
def readUnicode (input : List UInt8) : Except Failure (Char × List UInt8) :=
  match readHex input with
  | .error failure => .error failure
  | .ok (unit, rest) =>
    if 0xDC00 ≤ unit ∧ unit ≤ 0xDFFF then .error (here .loneSurrogate rest)
    else if 0xD800 ≤ unit ∧ unit ≤ 0xDBFF then readPair unit rest
    else .ok (Char.ofNat unit, rest)

/-- The byte of an escape that is one letter after the backslash. -/
def shortEscape? (b : UInt8) : Option UInt8 :=
  if b = byte '"' ∨ b = byte '\\' ∨ b = byte '/' then some b
  else if b = byte 'b' then some 0x08
  else if b = byte 'f' then some 0x0C
  else if b = byte 'n' then some 0x0A
  else if b = byte 'r' then some 0x0D
  else if b = byte 't' then some 0x09
  else none

/-- The bytes that an escape stands for, read after its backslash. -/
def readEscape (input : List UInt8) : Except Failure (List UInt8 × List UInt8) :=
  match input with
  | [] => .error (here .endInString input)
  | b :: rest =>
    match shortEscape? b with
    | some value => .ok ([value], rest)
    | none =>
      if b = byte 'u' then
        match readUnicode rest with
        | .error failure => .error failure
        | .ok (c, rest) => .ok (Utf8.encodeChar c, rest)
      else .error (here .invalidEscape rest)

theorem length_readHex {input rest : List UInt8} {n : Nat}
    (h : readHex input = .ok (n, rest)) : rest.length ≤ input.length := by
  unfold readHex at h
  split at h
  · split at h
    · simp only [Except.ok.injEq, Prod.mk.injEq] at h
      simp only [← h.2, List.length_cons]
      omega
    · simp at h
  · simp at h

theorem length_readPair {first : Nat} {input rest : List UInt8} {c : Char}
    (h : readPair first input = .ok (c, rest)) : rest.length ≤ input.length := by
  unfold readPair at h
  split at h
  · simp at h
  · simp at h
  · split at h
    · simp at h
    · split at h
      · simp at h
      · split at h
        · simp at h
        · next hx =>
          have := length_readHex hx
          split at h
          · simp at h
          · simp only [Except.ok.injEq, Prod.mk.injEq] at h
            simp only [← h.2, List.length_cons] at *
            omega

theorem length_readUnicode {input rest : List UInt8} {c : Char}
    (h : readUnicode input = .ok (c, rest)) : rest.length ≤ input.length := by
  unfold readUnicode at h
  split at h
  · simp at h
  · next hx =>
    have h1 := length_readHex hx
    split at h
    · simp at h
    · split at h
      · have := length_readPair h
        omega
      · simp only [Except.ok.injEq, Prod.mk.injEq] at h
        simpa [← h.2] using h1

theorem length_readEscape {input rest bytes : List UInt8}
    (h : readEscape input = .ok (bytes, rest)) : rest.length ≤ input.length := by
  unfold readEscape at h
  split at h
  · simp at h
  · split at h
    · simp only [Except.ok.injEq, Prod.mk.injEq] at h
      simp [← h.2]
    · split at h
      · split at h
        · simp at h
        · next hu =>
          have := length_readUnicode hu
          simp only [Except.ok.injEq, Prod.mk.injEq] at h
          simp only [← h.2, List.length_cons]
          omega
      · simp at h

/-- The bytes of a string up to its closing quote. -/
def readStringBytes (input : List UInt8) : Except Failure (List UInt8 × List UInt8) :=
  match input with
  | [] => .error (here .endInString input)
  | b :: rest =>
    if b = byte '"' then .ok ([], rest)
    else if b = byte '\\' then
      match _h : readEscape rest with
      | .error failure => .error failure
      | .ok (bytes, rest) =>
        match readStringBytes rest with
        | .error failure => .error failure
        | .ok (more, rest) => .ok (bytes ++ more, rest)
    else if b < 0x20 then .error (here .controlCharacter rest)
    else
      match readStringBytes rest with
      | .error failure => .error failure
      | .ok (more, rest) => .ok (b :: more, rest)
  termination_by input.length
  decreasing_by
    · have := length_readEscape _h
      simp only [List.length_cons]
      omega
    · simp

/-- A string, read after its opening quote.  Bytes that are no text are reported in front of the
closing quote. -/
def readString (input : List UInt8) : Except Failure (String × List UInt8) :=
  match readStringBytes input with
  | .error failure => .error failure
  | .ok (bytes, rest) =>
    match Utf8.string? bytes with
    | some s => .ok (s, rest)
    | none => .error ⟨.invalidCharacter, rest.length + 1⟩

/-! ## Numbers -/

/-- A number as it is stored: a whole number of 64 bits as it is, any other in floating point. -/
inductive Number where
  | whole (n : Int)
  | float (x : Float)

/-- How a report calls a number. -/
def Number.describe : Number → String
  | .whole n => s!"integer `{n}`"
  | .float x => s!"floating point `{Shortest.text x}`"

/-- The value of a digit. -/
def digitValue (b : UInt8) : Nat :=
  b.toNat - 0x30

/-- The value of the leading digits, as long as it stays up to `limit`: the value, the number of
digits, and what follows them.  `sum` and `count` are those of the digits before. -/
def leadingDigits (limit sum count : Nat) : List UInt8 → Nat × Nat × List UInt8
  | [] => (sum, count, [])
  | b :: rest =>
    if isDigit b ∧ sum * 10 + digitValue b ≤ limit then
      leadingDigits limit (sum * 10 + digitValue b) (count + 1) rest
    else (sum, count, b :: rest)

/-- Whether a digit comes next. -/
def digitNext (input : List UInt8) : Bool :=
  input.head?.any isDigit

/-- Whether an exponent comes next. -/
def exponentNext (input : List UInt8) : Bool :=
  input.head?.any fun b => b == byte 'e' || b == byte 'E'

/-- A number scaled by a power of ten, or `none` beyond the range; powers below the least one are
taken in steps of 308. -/
def scaled (fuel : Nat) (x : Float) (exponent : Int) : Option Float :=
  if exponent.natAbs ≤ 308 then
    let power := Float.ofScientific 1 false exponent.natAbs
    if 0 ≤ exponent then if (x * power).isInf then none else some (x * power)
    else some (x / power)
  else if x == 0.0 then some x
  else if 0 ≤ exponent then none
  else
    match fuel with
    | 0 => some x
    | fuel + 1 => scaled fuel (x / Float.ofScientific 1 false 308) (exponent + 308)

/-- The number of a sign, leading digits and an exponent. -/
def ofParts (positive : Bool) (sum : Nat) (exponent : Int) (rest : List UInt8) :
    Except Failure (Number × List UInt8) :=
  match scaled (exponent.natAbs / 308 + 1) (Float.ofNat sum) exponent with
  | some x => .ok (.float (if positive then x else -x), rest)
  | none => .error (here .numberOutOfRange rest)

/-- The sign of an exponent and what follows it. -/
def readSign (input : List UInt8) : Bool × List UInt8 :=
  match input with
  | b :: rest =>
    if b = byte '+' then (true, rest)
    else if b = byte '-' then (false, rest)
    else (true, input)
  | [] => (true, [])

/-- The greatest exponent that is read digit by digit. -/
def maxExponent : Nat :=
  0x7FFFFFFF

/-- The exponent of a number, read after its `e`; `start` is the exponent that the digits before
have. -/
def readExponent (positive : Bool) (sum : Nat) (start : Int) (input : List UInt8) :
    Except Failure (Number × List UInt8) :=
  let (up, digits) := readSign input
  match digits with
  | [] => .error (here .endInValue [])
  | b :: more =>
    if !isDigit b then .error (here .invalidNumber more)
    else
      let (value, _, rest) := leadingDigits maxExponent 0 0 digits
      if !digitNext rest then
        ofParts positive sum (if up then start + value else start - value) rest
      else if sum ≠ 0 ∧ up then .error (here .numberOutOfRange (rest.drop 1))
      else .ok (.float (if positive then 0.0 else -0.0), rest.dropWhile isDigit)

/-- The end of a number: an exponent, or nothing. -/
def readScale (positive : Bool) (sum : Nat) (exponent : Int) (input : List UInt8) :
    Except Failure (Number × List UInt8) :=
  if exponentNext input then readExponent positive sum exponent (input.drop 1)
  else ofParts positive sum exponent input

/-- The digits after the point, read behind it. -/
def readFraction (positive : Bool) (sum : Nat) (exponent : Int) (input : List UInt8) :
    Except Failure (Number × List UInt8) :=
  let (sum, count, rest) := leadingDigits Text.Number.max64 sum 0 input
  if digitNext rest then readScale positive sum (exponent - count) (rest.dropWhile isDigit)
  else if count = 0 then
    .error (if rest.isEmpty then here .endInValue [] else beyond .invalidNumber rest)
  else readScale positive sum (exponent - count) rest

/-- What follows the leading digits of a number; `exponent` counts the digits that were dropped. -/
def readTail (positive : Bool) (sum : Nat) (exponent : Int) (input : List UInt8) :
    Except Failure (Number × List UInt8) :=
  match input with
  | b :: rest =>
    if b = byte '.' then readFraction positive sum exponent rest
    else readScale positive sum exponent input
  | [] => readScale positive sum exponent input

/-- A number after its sign. -/
def readNumber (positive : Bool) (input : List UInt8) : Except Failure (Number × List UInt8) :=
  match input with
  | [] => .error (here .endInValue input)
  | b :: more =>
    if !isDigit b then .error (here .invalidNumber more)
    else if b = byte '0' ∧ digitNext more then .error (beyond .invalidNumber more)
    else
      let (sum, _, rest) := leadingDigits Text.Number.max64 0 0 (if b = byte '0' then [b] else input)
      let rest := if b = byte '0' then more else rest
      if digitNext rest then
        let dropped := (rest.takeWhile isDigit).length
        readTail positive sum dropped (rest.dropWhile isDigit)
      else if exponentNext rest ∨ rest.head? = some (byte '.') then readTail positive sum 0 rest
      else if positive then .ok (.whole sum, rest)
      else if 0 < sum ∧ sum ≤ 0x8000000000000000 then .ok (.whole (-(sum : Int)), rest)
      else .ok (.float (-(Float.ofNat sum)), rest)

/-! ## Values that are skipped -/

/-- Skips the exponent of a number. -/
def skipExponent (input : List UInt8) : Except Failure (List UInt8) :=
  match (readSign input).2 with
  | [] => .error (here .invalidNumber [])
  | b :: rest =>
    if isDigit b then .ok (rest.dropWhile isDigit) else .error (here .invalidNumber rest)

/-- Skips a number after its sign. -/
def skipNumber (input : List UInt8) : Except Failure (List UInt8) :=
  match input with
  | [] => .error (here .invalidNumber input)
  | b :: more =>
    if !isDigit b then .error (here .invalidNumber more)
    else if b = byte '0' ∧ digitNext more then .error (beyond .invalidNumber more)
    else
      let rest := if b = byte '0' then more else more.dropWhile isDigit
      if rest.head? = some (byte '.') then
        let fraction := rest.drop 1
        if digitNext fraction then
          let rest := fraction.dropWhile isDigit
          if exponentNext rest then skipExponent (rest.drop 1) else .ok rest
        else .error (beyond .invalidNumber fraction)
      else if exponentNext rest then skipExponent (rest.drop 1)
      else .ok rest

/-- Skips a string after its opening quote.  Its escapes have to be well formed, its characters need
not. -/
def skipString (fuel : Nat) (input : List UInt8) : Except Failure (List UInt8) :=
  match fuel, input with
  | _, [] => .error (here .endInString input)
  | 0, _ => .error (here .endInString input)
  | fuel + 1, b :: rest =>
    if b = byte '"' then .ok rest
    else if b = byte '\\' then
      match rest with
      | [] => .error (here .endInString rest)
      | mark :: rest =>
        if mark = byte 'u' then
          match readHex rest with
          | .error failure => .error failure
          | .ok (_, rest) => skipString fuel rest
        else if (shortEscape? mark).isSome then skipString fuel rest
        else .error (here .invalidEscape rest)
    else if b < 0x20 then .error (here .controlCharacter input)
    else skipString fuel rest

mutual

/-- Skips one value.  `fuel` bounds the number of tokens. -/
def skipValue (fuel : Nat) (input : List UInt8) : Except Failure (List UInt8) :=
  match fuel, skipSpace input with
  | 0, rest => .error (beyond .endInValue rest)
  | _, [] => .error (here .endInValue [])
  | fuel + 1, b :: rest =>
    if b = byte 'n' then readWord "ull".toList rest
    else if b = byte 't' then readWord "rue".toList rest
    else if b = byte 'f' then readWord "alse".toList rest
    else if b = byte '-' then skipNumber rest
    else if isDigit b then skipNumber (b :: rest)
    else if b = byte '"' then skipString rest.length rest
    else if b = byte '[' then skipItems fuel true rest
    else if b = byte '\x7b' then skipMembers fuel true rest
    else .error (beyond .expectedValue (b :: rest))

/-- Skips the items of a list up to its end; `first` says that none was read yet. -/
def skipItems (fuel : Nat) (first : Bool) (input : List UInt8) : Except Failure (List UInt8) :=
  match fuel, skipSpace input with
  | 0, rest => .error (beyond .endInList rest)
  | _, [] => .error (here .endInList [])
  | fuel + 1, b :: rest =>
    if b = byte ']' then .ok rest
    else if !first && b != byte ',' then .error (beyond .expectedListCommaOrEnd (b :: rest))
    else
      match skipValue fuel (if first then b :: rest else rest) with
      | .error failure => .error failure
      | .ok rest => skipItems fuel false rest

/-- Skips the members of an object up to its end; `first` says that none was read yet. -/
def skipMembers (fuel : Nat) (first : Bool) (input : List UInt8) : Except Failure (List UInt8) :=
  match fuel, skipSpace input with
  | 0, rest => .error (beyond .endInObject rest)
  | _, [] => .error (here .endInObject [])
  | fuel + 1, b :: rest =>
    if b = byte '\x7d' then .ok rest
    else if !first && b != byte ',' then .error (beyond .expectedObjectCommaOrEnd (b :: rest))
    else
      match skipSpace (if first then b :: rest else rest) with
      | [] => .error (here .endInObject [])
      | quote :: rest =>
        if quote ≠ byte '"' then .error (beyond .keyNotString (quote :: rest))
        else
          match skipString rest.length rest with
          | .error failure => .error failure
          | .ok rest =>
            match skipSpace rest with
            | [] => .error (here .endInObject [])
            | colon :: rest =>
              if colon ≠ byte ':' then .error (beyond .expectedColon (colon :: rest))
              else
                match skipValue fuel rest with
                | .error failure => .error failure
                | .ok rest => skipMembers fuel false rest

end

/-- Skips one value. -/
def skip (input : List UInt8) : Except Failure (List UInt8) :=
  skipValue (2 * input.length + 2) input

end FormFetch.Json
