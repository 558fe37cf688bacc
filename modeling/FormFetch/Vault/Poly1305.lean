import FormFetch.Bytes.Words

/-!
# Poly1305

The one-time authenticator of RFC 8439: the value of a polynomial over the
message's blocks at a secret point, plus a secret number.
-/

namespace FormFetch.Vault.Poly1305

open FormFetch.Bytes

/-- The modulus of the polynomial, `2 ^ 130 - 5`. -/
def prime : Nat :=
  0x3FFFFFFFFFFFFFFFFFFFFFFFFFFFFFFFB

/-- A point with the bits cleared that the scheme does not use. -/
def clamp (r : Nat) : Nat :=
  r &&& 0x0ffffffc0ffffffc0ffffffc0fffffff

/-- The sum after one more block, which a one bit ends. -/
def absorb (r sum : Nat) (block : List UInt8) : Nat :=
  (sum + numberLE (block ++ [1])) * r % prime

/-- The sixteen bytes that authenticate a message under a one-time key of 32 bytes. -/
def tag (key message : List UInt8) : List UInt8 :=
  let r := clamp (numberLE (key.take 16))
  let sum := (groups 16 message).foldl (absorb r) 0
  littleEndian 16 (sum + numberLE (key.drop 16))

end FormFetch.Vault.Poly1305
