import FormFetch.Vault.Seal

/-!
# Sealed texts are opened exactly

A sealed text opens only as what was sealed, under the key and the nonce that sealed it.

* `crypt_crypt`: the key stream is as long as the text, so that it is taken off again.
* `open?_eq_some_iff` is the result: nothing opens but the sealed form of a text.
-/

namespace FormFetch.Vault

open FormFetch.Bytes

/-! ## The length of a key stream -/

namespace ChaCha20

theorem length_ofWordsLE (words : List UInt32) : (ofWordsLE words).length = 4 * words.length := by
  induction words with
  | nil => rfl
  | cons word rest ih =>
    show (littleEndian 4 word.toNat ++ ofWordsLE rest).length = 4 * (rest.length + 1)
    rw [List.length_append, length_littleEndian, ih]
    omega

theorem length_block (key : List UInt8) (counter : Nat) (nonce : List UInt8) :
    (block key counter nonce).length = 64 := by
  rw [block, length_ofWordsLE, Vector.length_toList]

theorem length_stream (key nonce : List UInt8) (counter length : Nat) :
    (stream key nonce counter length).length = (length + 63) / 64 * 64 := by
  have hblocks : ∀ counters : List Nat,
      (counters.flatMap fun i => block key (counter + i) nonce).length = counters.length * 64 := by
    intro counters
    induction counters with
    | nil => rfl
    | cons i rest ih =>
      rw [List.flatMap_cons, List.length_append, length_block, ih, List.length_cons]
      omega
  rw [stream, hblocks, List.length_range]

theorem length_mask {keys text : List UInt8} (h : text.length ≤ keys.length) :
    (mask keys text).length = text.length := by
  rw [mask, List.length_zipWith]
  omega

end ChaCha20

namespace Seal

variable (key nonce text : List UInt8)

/-! ## The masked text -/

theorem crypt_eq : crypt key nonce text =
    ChaCha20.mask
      (ChaCha20.stream (subkey key nonce).1 (subkey key nonce).2 1 text.length) text := by
  unfold crypt
  generalize subkey key nonce = pair
  cases pair
  rfl

theorem length_crypt : (crypt key nonce text).length = text.length := by
  rw [crypt_eq]
  apply ChaCha20.length_mask
  rw [ChaCha20.length_stream]
  omega

/-- A text masked twice under one key and one nonce is the text again. -/
theorem crypt_crypt : crypt key nonce (crypt key nonce text) = text := by
  have hlength := length_crypt key nonce text
  have hstream : text.length ≤
      (ChaCha20.stream (subkey key nonce).1 (subkey key nonce).2 1 text.length).length := by
    rw [ChaCha20.length_stream]
    omega
  -- The masked text is as long as the text, and so both are combined with the same key stream.
  rw [crypt_eq key nonce (crypt key nonce text), hlength, crypt_eq]
  exact ChaCha20.mask_mask hstream

/-! ## Opening -/

theorem length_tag (masked : List UInt8) : (tag key nonce masked).length = tagSize := by
  show (Poly1305.tag _ _).length = 16
  rw [Poly1305.tag, length_littleEndian]

theorem length_close : (close key nonce text).length = text.length + tagSize := by
  show (crypt key nonce text ++ tag key nonce (crypt key nonce text)).length = _
  rw [List.length_append, length_crypt, length_tag]

theorem open?_close : open? key nonce (close key nonce text) = some text := by
  have hlength := length_close key nonce text
  have htake : (close key nonce text).take ((close key nonce text).length - tagSize) =
      crypt key nonce text := by
    rw [hlength, Nat.add_sub_cancel, ← length_crypt key nonce text]
    exact List.take_left
  have hdrop : (close key nonce text).drop ((close key nonce text).length - tagSize) =
      tag key nonce (crypt key nonce text) := by
    rw [hlength, Nat.add_sub_cancel, ← length_crypt key nonce text]
    exact List.drop_left
  rw [open?, if_neg (by omega)]
  dsimp only
  rw [htake, hdrop, if_pos rfl, crypt_crypt]

variable {key nonce text}

theorem eq_close_of_open? {sealed : List UInt8} (h : open? key nonce sealed = some text) :
    sealed = close key nonce text := by
  unfold open? at h
  dsimp only at h
  split at h
  · cases h
  · split at h
    · rename_i htag
      have htext := Option.some.inj h
      show sealed = crypt key nonce text ++ tag key nonce (crypt key nonce text)
      rw [← htext, crypt_crypt, ← htag, List.take_append_drop]
    · cases h

/-- Nothing opens but the sealed form of a text, and that opens as this text. -/
theorem open?_eq_some_iff {sealed : List UInt8} :
    open? key nonce sealed = some text ↔ sealed = close key nonce text := by
  constructor
  · exact eq_close_of_open?
  · rintro rfl
    exact open?_close key nonce text

end Seal

end FormFetch.Vault
