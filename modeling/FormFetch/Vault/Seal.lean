import FormFetch.Vault.ChaCha20
import FormFetch.Vault.Poly1305

/-!
# Sealed texts

Authenticated encryption with a key of 32 bytes and a nonce of 24 bytes
(XChaCha20-Poly1305, no associated data).  A sealed text is the masked text and
its tag; it opens only when the tag is the one that sealing would write.
-/

namespace FormFetch.Vault.Seal

open FormFetch.Bytes

/-- The number of bytes of a tag. -/
def tagSize : Nat :=
  16

/-- The key of one text, and the short nonce that goes with it. -/
def subkey (key nonce : List UInt8) : List UInt8 × List UInt8 :=
  (ChaCha20.derive key (nonce.take 16), [0, 0, 0, 0] ++ nonce.drop 16)

/-- A text under the key stream of a key and a nonce; the first block is kept for the tag. -/
def crypt (key nonce text : List UInt8) : List UInt8 :=
  let (key, nonce) := subkey key nonce
  ChaCha20.mask (ChaCha20.stream key nonce 1 text.length) text

/-- Bytes filled up to whole blocks of sixteen. -/
def padded (bytes : List UInt8) : List UInt8 :=
  bytes ++ List.replicate ((16 - bytes.length % 16) % 16) 0

/-- The tag of a masked text. -/
def tag (key nonce masked : List UInt8) : List UInt8 :=
  let (key, nonce) := subkey key nonce
  Poly1305.tag ((ChaCha20.block key 0 nonce).take 32)
    (padded masked ++ littleEndian 8 0 ++ littleEndian 8 masked.length)

/-- The sealed form of a text. -/
def close (key nonce text : List UInt8) : List UInt8 :=
  let masked := crypt key nonce text
  masked ++ tag key nonce masked

/-- The text of a sealed form, if its tag is right. -/
def open? (key nonce sealed : List UInt8) : Option (List UInt8) :=
  if sealed.length < tagSize then none
  else
    let masked := sealed.take (sealed.length - tagSize)
    if sealed.drop (sealed.length - tagSize) = tag key nonce masked then
      some (crypt key nonce masked)
    else none

end FormFetch.Vault.Seal
