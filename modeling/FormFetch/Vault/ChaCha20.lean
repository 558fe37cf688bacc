import FormFetch.Bytes.Words

/-!
# ChaCha20

The block function of RFC 8439, the key stream made of its blocks, and the
derivation of a key from a key and a long nonce.

* `block` turns a key, a counter and a nonce into 64 bytes.
* `stream` is as many bytes of key stream as a text is long; `mask` combines it
  with the text, and masking twice gives the text back (`mask_mask`).
* `derive` is the key for the rest of a long nonce.
-/

namespace FormFetch.Vault.ChaCha20

open FormFetch.Bytes

/-- The sixteen words that the rounds work on. -/
abbrev State :=
  Vector UInt32 16

/-- Sixteen words; missing ones are zero. -/
def State.ofList (words : List UInt32) : State :=
  Vector.ofFn fun i => words.getD i 0

/-- The four words in front of the key. -/
def constants : List UInt32 :=
  [0x61707865, 0x3320646e, 0x79622d32, 0x6b206574]

/-- The quarter round on four of the words. -/
def quarter (s : State) (a b c d : Fin 16) : State :=
  let s := s.set a (s[a] + s[b])
  let s := s.set d (rotateLeft (s[d] ^^^ s[a]) 16)
  let s := s.set c (s[c] + s[d])
  let s := s.set b (rotateLeft (s[b] ^^^ s[c]) 12)
  let s := s.set a (s[a] + s[b])
  let s := s.set d (rotateLeft (s[d] ^^^ s[a]) 8)
  let s := s.set c (s[c] + s[d])
  s.set b (rotateLeft (s[b] ^^^ s[c]) 7)

/-- A round over the columns and one over the diagonals. -/
def doubleRound (s : State) : State :=
  let s := quarter s 0 4 8 12
  let s := quarter s 1 5 9 13
  let s := quarter s 2 6 10 14
  let s := quarter s 3 7 11 15
  let s := quarter s 0 5 10 15
  let s := quarter s 1 6 11 12
  let s := quarter s 2 7 8 13
  quarter s 3 4 9 14

/-- All twenty rounds. -/
def rounds (s : State) : State :=
  Nat.repeat doubleRound 10 s

/-- The 64 bytes for a key of 32 bytes, a counter and a nonce of twelve bytes. -/
def block (key : List UInt8) (counter : Nat) (nonce : List UInt8) : List UInt8 :=
  let start := State.ofList (constants ++ wordsLE key ++ [counter.toUInt32] ++ wordsLE nonce)
  ofWordsLE (Vector.zipWith (· + ·) start (rounds start)).toList

/-- At least `length` bytes of key stream, in whole blocks from `counter` on. -/
def stream (key nonce : List UInt8) (counter length : Nat) : List UInt8 :=
  (List.range ((length + 63) / 64)).flatMap fun i => block key (counter + i) nonce

/-- A text combined bit by bit with a key stream. -/
def mask (keys text : List UInt8) : List UInt8 :=
  List.zipWith (· ^^^ ·) text keys

/-- The key that a key and the first sixteen bytes of a long nonce give. -/
def derive (key nonce : List UInt8) : List UInt8 :=
  let s := rounds (State.ofList (constants ++ wordsLE key ++ wordsLE nonce))
  ofWordsLE (s.toList.take 4 ++ s.toList.drop 12)

theorem mask_mask {keys text : List UInt8} (h : text.length ≤ keys.length) :
    mask keys (mask keys text) = text := by
  induction text generalizing keys with
  | nil => rfl
  | cons b rest ih =>
    cases keys with
    | nil => simp at h
    | cons k ks =>
      have := ih (by simpa using h)
      simp only [mask] at this ⊢
      rw [List.zipWith_cons_cons, List.zipWith_cons_cons, this, UInt8.xor_assoc, UInt8.xor_self,
        UInt8.xor_zero]

end FormFetch.Vault.ChaCha20
