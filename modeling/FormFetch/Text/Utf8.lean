/-!
# UTF-8

Characters as bytes and bytes as characters.  `decode` refuses every ill-formed
sequence and says where it starts and how many of its bytes are beyond repair,
so that a reader can report the place.

* `decode_nil`, `encode_append`: the ends of the two directions.
-/

namespace FormFetch.Text.Utf8

/-- Where bytes stop being UTF-8. -/
structure Fault where
  /-- The number of bytes before the broken character. -/
  validUpTo : Nat
  /-- The length of the broken sequence, or `none` when the input ends inside a character. -/
  width : Option Nat
  deriving DecidableEq, Repr

/-- The report of a fault. -/
def Fault.message (fault : Fault) : String :=
  match fault.width with
  | some width =>
    s!"invalid utf-8 sequence of {width} bytes from index {fault.validUpTo}"
  | none => s!"incomplete utf-8 byte sequence from index {fault.validUpTo}"

/-- The bytes of one character. -/
def encodeChar (c : Char) : List UInt8 :=
  let n := c.toNat
  if n < 0x80 then [n.toUInt8]
  else if n < 0x800 then [(0xC0 + n / 64).toUInt8, (0x80 + n % 64).toUInt8]
  else if n < 0x10000 then
    [(0xE0 + n / 4096).toUInt8, (0x80 + n / 64 % 64).toUInt8, (0x80 + n % 64).toUInt8]
  else
    [(0xF0 + n / 262144).toUInt8, (0x80 + n / 4096 % 64).toUInt8,
      (0x80 + n / 64 % 64).toUInt8, (0x80 + n % 64).toUInt8]

/-- The bytes of a text. -/
def encode (cs : List Char) : List UInt8 :=
  cs.flatMap encodeChar

/-- The bytes of a string. -/
def bytes (s : String) : List UInt8 :=
  encode s.toList

/-- A byte that continues a character. -/
def isTail (b : UInt8) : Bool :=
  0x80 ≤ b && b ≤ 0xBF

/-- The bytes that may follow the first byte of a three-byte character. -/
def secondOfThree (first second : UInt8) : Bool :=
  if first == 0xE0 then 0xA0 ≤ second && second ≤ 0xBF
  else if first == 0xED then 0x80 ≤ second && second ≤ 0x9F
  else isTail second

/-- The bytes that may follow the first byte of a four-byte character. -/
def secondOfFour (first second : UInt8) : Bool :=
  if first == 0xF0 then 0x90 ≤ second && second ≤ 0xBF
  else if first == 0xF4 then 0x80 ≤ second && second ≤ 0x8F
  else isTail second

/-- The payload of a continuation byte. -/
def low (b : UInt8) : Nat :=
  b.toNat % 64

/-- The character at the head of `first :: rest` and the number of bytes of `rest` that it takes,
or the length of the broken sequence (`none`: the input ends too early). -/
def head (first : UInt8) (rest : List UInt8) : Except (Option Nat) (Char × Nat) :=
  if first < 0x80 then .ok (Char.ofNat first.toNat, 0)
  else if 0xC2 ≤ first && first ≤ 0xDF then
    match rest with
    | [] => .error none
    | b :: _ =>
      if isTail b then .ok (Char.ofNat (first.toNat % 32 * 64 + low b), 1) else .error (some 1)
  else if 0xE0 ≤ first && first ≤ 0xEF then
    match rest with
    | [] => .error none
    | b :: tail =>
      if !secondOfThree first b then .error (some 1)
      else match tail with
        | [] => .error none
        | c :: _ =>
          if isTail c then
            .ok (Char.ofNat (first.toNat % 16 * 4096 + low b * 64 + low c), 2)
          else .error (some 2)
  else if 0xF0 ≤ first && first ≤ 0xF4 then
    match rest with
    | [] => .error none
    | b :: tail =>
      if !secondOfFour first b then .error (some 1)
      else match tail with
        | [] => .error none
        | c :: tail =>
          if !isTail c then .error (some 2)
          else match tail with
            | [] => .error none
            | d :: _ =>
              if isTail d then
                .ok (Char.ofNat
                  (first.toNat % 8 * 262144 + low b * 4096 + low c * 64 + low d), 3)
              else .error (some 3)
  else .error (some 1)

/-- The characters of `bytes`, which start at offset `start` of the whole input. -/
def decodeFrom (start : Nat) : List UInt8 → Except Fault (List Char)
  | [] => .ok []
  | first :: rest =>
    match head first rest with
    | .error width => .error ⟨start, width⟩
    | .ok (c, taken) =>
      match decodeFrom (start + 1 + taken) (rest.drop taken) with
      | .error fault => .error fault
      | .ok cs => .ok (c :: cs)
  termination_by bytes => bytes.length
  decreasing_by simp only [List.length_drop, List.length_cons]; omega

/-- The characters of a byte sequence, or its first fault. -/
def decode (bytes : List UInt8) : Except Fault (List Char) :=
  decodeFrom 0 bytes

/-- The string of a byte sequence, if it is UTF-8. -/
def string? (bytes : List UInt8) : Option String :=
  match decode bytes with
  | .ok cs => some (String.ofList cs)
  | .error _ => none

@[simp] theorem decode_nil : decode [] = .ok [] := by
  simp [decode, decodeFrom]

@[simp] theorem encode_append (cs ds : List Char) : encode (cs ++ ds) = encode cs ++ encode ds := by
  simp [encode]

end FormFetch.Text.Utf8
