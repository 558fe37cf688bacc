import FormFetch.Hash.Sha256
import FormFetch.Text.Utf8
import FormFetch.Vault.Seal

/-!
# Vault payloads

The bytes of a credential file: a mark, a nonce and a sealed text.  The key is the
hash of the user's key material.

* `Payload.write` and `Payload.read` are the two directions.
-/

namespace FormFetch.Vault

open FormFetch.Text

/-- Why a credential file gives no credentials. -/
inductive PayloadFault where
  /-- Too short, or without the mark. -/
  | invalid
  /-- The seal does not hold under this key. -/
  | undecryptable
  deriving DecidableEq, Repr

namespace Payload

/-- The first bytes of every payload. -/
def mark : List UInt8 :=
  [0x4F, 0x52, 0x43, 0x31]

/-- The number of bytes of a nonce. -/
def nonceSize : Nat :=
  24

/-- The cipher key of key material. -/
def key (material : String) : List UInt8 :=
  Hash.Sha256.hash (Utf8.bytes material)

/-- The payload of a text under a nonce. -/
def write (material : String) (nonce text : List UInt8) : List UInt8 :=
  mark ++ nonce ++ Seal.close (key material) nonce text

/-- The text of a payload. -/
def read (material : String) (payload : List UInt8) : Except PayloadFault (List UInt8) :=
  if payload.length < mark.length + nonceSize ∨ payload.take mark.length ≠ mark then
    .error .invalid
  else
    let rest := payload.drop mark.length
    match Seal.open? (key material) (rest.take nonceSize) (rest.drop nonceSize) with
    | some text => .ok text
    | none => .error .undecryptable

end Payload

end FormFetch.Vault
