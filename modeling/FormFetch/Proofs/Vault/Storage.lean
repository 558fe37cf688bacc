import FormFetch.Proofs.Credentials.Keys
import FormFetch.Proofs.Files.Disk
import FormFetch.Proofs.Vault.Payload
import FormFetch.Vault.Storage

/-!
# Saved stores

A saved store is loaded as the store of its own entries.

* `unlock_lock` and `load_of_save` are the ways there and back.
* `loaded_eq_iff` says for which stores nothing is changed: those without a key that ends
  with a blank.
-/

namespace FormFetch.Vault

open Files

variable {disk saved : Disk} {path material : String} {store : Store} {nonce : List UInt8}

theorem unlock_lock (store : Store) (material : String)
    (hnonce : nonce.length = Payload.nonceSize) :
    unlock material (lock store material nonce) = .ok (Store.ofEntries store.entries) := by
  simp only [unlock, lock, Payload.read_write hnonce, Json.Entries.read_write]

theorem read_of_writePayload {payload : List UInt8} (h : writePayload disk path payload = .ok saved) :
    saved.read path = .ok payload := by
  unfold writePayload at h
  split at h
  · cases h
  · split at h
    · cases h
    · rename_i hwrite
      exact Disk.read_of_write hwrite h

/-- What is loaded from a file is the store of the entries that were saved in it. -/
theorem load_of_save (hnonce : nonce.length = Payload.nonceSize)
    (h : save disk path store material nonce = .ok saved) :
    load saved path material = .ok (Store.ofEntries store.entries) := by
  unfold save at h
  cases hwrite : writePayload disk path (lock store material nonce) with
  | error fault =>
    rw [hwrite] at h
    cases h
  | ok written =>
    rw [hwrite] at h
    cases h
    simp only [load, read_of_writePayload hwrite, unlock_lock store material hnonce]

/-- A saved store is loaded without a failure.  It has the same entries exactly if no key of the
store ends with a blank, and exactly then every look-up gives the same. -/
theorem loaded_eq_iff (hstore : store.Reachable) (hnonce : nonce.length = Payload.nonceSize)
    (hsave : save disk path store material nonce = .ok saved) :
    ∃ loaded, load saved path material = .ok loaded ∧
      (loaded.entries = store.entries ↔ ∀ c ∈ store.entries, endsBlank c.serverUrl = false) ∧
      ((∀ address, loaded.get address = store.get address) ↔
        ∀ c ∈ store.entries, endsBlank c.serverUrl = false) :=
  ⟨_, load_of_save hnonce hsave, Store.entries_ofEntries_iff hstore⟩

/-! ## A new file -/

/-- The files after a payload was written into a new file in the working directory. -/
def vaultDisk (payload : List UInt8) : Disk where
  entries := [(⟨false, ["vault"]⟩, .file ⟨payload, ownerOnly⟩)]

theorem writePayload_vault (payload : List UInt8) :
    writePayload {} "vault" payload = .ok (vaultDisk payload) := by
  rfl

theorem save_vault (store : Store) (material : String) (nonce : List UInt8) :
    save {} "vault" store material nonce = .ok (vaultDisk (lock store material nonce)) := by
  rw [save, writePayload_vault]
  rfl

/-- The nonce of zeros. -/
def zeroNonce : List UInt8 :=
  List.replicate 24 0

/-- A store with one entry, for a plain address. -/
def plainStore : Store :=
  Store.set {} "https://forms.example/v1/" "alice" "s3cret"

theorem loaded_eq_plainStore :
    ∃ loaded, load (vaultDisk (lock plainStore "key" zeroNonce)) "vault" "key" = .ok loaded ∧
      loaded.entries = [⟨"https://forms.example/v1", "alice", "s3cret"⟩] := by
  obtain ⟨loaded, hload, hentries, -⟩ :=
    loaded_eq_iff (Store.Reachable.new.set "https://forms.example/v1/" "alice" "s3cret") rfl
      (save_vault plainStore "key" zeroNonce)
  refine ⟨loaded, hload, ?_⟩
  rw [hentries.mpr (by decide +kernel)]
  decide +kernel

/-- A store with one entry, whose key ends with a blank: a slash stood behind it. -/
def spacedStore : Store :=
  Store.set {} "https://forms.example/my forms /" "alice" "s3cret"

/-- The entry is loaded under another key: it is not found any more where it was kept, and it is
found where nothing was kept. -/
theorem loaded_ne_spacedStore :
    spacedStore.Reachable ∧
      save {} "vault" spacedStore "key" zeroNonce =
        .ok (vaultDisk (lock spacedStore "key" zeroNonce)) ∧
      ∃ loaded, load (vaultDisk (lock spacedStore "key" zeroNonce)) "vault" "key" = .ok loaded ∧
        spacedStore.keys = ["https://forms.example/my forms "] ∧
        loaded.keys = ["https://forms.example/my forms"] ∧
        (spacedStore.get "https://forms.example/my forms /formList").username = "alice" ∧
        (loaded.get "https://forms.example/my forms /formList").username = "" ∧
        (spacedStore.get "https://forms.example/my forms/formList").username = "" ∧
        (loaded.get "https://forms.example/my forms/formList").username = "alice" := by
  have hsave := save_vault spacedStore "key" zeroNonce
  refine ⟨Store.Reachable.new.set _ _ _, hsave, _, load_of_save rfl hsave, ?_⟩
  decide +kernel

end FormFetch.Vault
