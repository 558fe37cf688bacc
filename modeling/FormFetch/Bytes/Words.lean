/-!
# Bytes in groups and words

The shapes that hashes and ciphers read: groups of a fixed size, and 32-bit words
in either byte order.

* `length_littleEndian`, `length_bigEndian`: a number written on `size` bytes has
  `size` bytes.
-/

namespace FormFetch.Bytes

/-- A list cut into groups of `size`; the last group may be shorter. -/
def groups {α : Type} (size : Nat) (items : List α) : List (List α) :=
  if _h : items = [] ∨ size = 0 then []
  else items.take size :: groups size (items.drop size)
  termination_by items.length
  decreasing_by
    have := List.length_pos_iff.2 (not_or.1 _h).1
    simp only [List.length_drop]
    omega

/-- The number written by bytes of which the first is the least significant. -/
def numberLE : List UInt8 → Nat
  | [] => 0
  | b :: rest => b.toNat + 256 * numberLE rest

/-- A number on `size` bytes, least significant first; what does not fit is dropped. -/
def littleEndian : Nat → Nat → List UInt8
  | 0, _ => []
  | size + 1, n => (n % 256).toUInt8 :: littleEndian size (n / 256)

/-- A number on `size` bytes, most significant first. -/
def bigEndian (size n : Nat) : List UInt8 :=
  (littleEndian size n).reverse

/-- The little-endian words of a byte sequence. -/
def wordsLE (bytes : List UInt8) : List UInt32 :=
  (groups 4 bytes).map fun group => (numberLE group).toUInt32

/-- The big-endian words of a byte sequence. -/
def wordsBE (bytes : List UInt8) : List UInt32 :=
  (groups 4 bytes).map fun group => (numberLE group.reverse).toUInt32

/-- The bytes of words, each least significant byte first. -/
def ofWordsLE (words : List UInt32) : List UInt8 :=
  words.flatMap fun word => littleEndian 4 word.toNat

/-- The bytes of words, each most significant byte first. -/
def ofWordsBE (words : List UInt32) : List UInt8 :=
  words.flatMap fun word => bigEndian 4 word.toNat

/-- A word turned left by `count` bits. -/
def rotateLeft (word : UInt32) (count : UInt32) : UInt32 :=
  (word <<< count) ||| (word >>> (32 - count))

/-- A word turned right by `count` bits. -/
def rotateRight (word : UInt32) (count : UInt32) : UInt32 :=
  (word >>> count) ||| (word <<< (32 - count))

@[simp] theorem length_littleEndian (size n : Nat) : (littleEndian size n).length = size := by
  induction size generalizing n with
  | zero => rfl
  | succ size ih => simp [littleEndian, ih]

@[simp] theorem length_bigEndian (size n : Nat) : (bigEndian size n).length = size := by
  simp [bigEndian]

end FormFetch.Bytes
