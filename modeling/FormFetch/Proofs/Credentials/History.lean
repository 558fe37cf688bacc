import Mathlib.Data.List.Sort
import FormFetch.Vault.Storage
import FormFetch.Proofs.Credentials.Keys

/-!
# Stores after any changes

What a look-up gives in a store with any history, and what its history does not matter for.

* `length_le_iff_of_covers`: of the keys that cover one address the longest has the most
  characters and the most bytes.
* `Store.Change` is a change of a store, `Store.after` the store after some changes.
  `Store.reachable_after` brings in what is known of stores, and `Store.Reachable.tidy` says
  how they keep their keys.
* `Store.entries_eq_of_mem_iff`: a store is known from its entries in any order, and
  `Store.entries_setAll_perm` says so for entries that are set one after the other.
* `Store.get_after` is the result.
-/

namespace FormFetch

open Text

/-! ## The longest key -/

/-- What goes on behind a text has more bytes. -/
theorem utf8ByteSize_lt_of_prefix {key other : String} (h : key.toList <+: other.toList)
    (hlt : key.length < other.length) : key.utf8ByteSize < other.utf8ByteSize := by
  obtain ⟨tail, htail⟩ := h
  have hother : other = key ++ String.ofList tail := by
    rw [← String.toList_inj, String.toList_append, String.toList_ofList, htail]
  have hne : String.ofList tail ≠ "" := by
    intro hnil
    rw [hother, hnil, String.append_empty] at hlt
    omega
  have hpos : (String.ofList tail).utf8ByteSize ≠ 0 := by
    rw [ne_eq, String.utf8ByteSize_eq_zero_iff]
    exact hne
  rw [hother, String.utf8ByteSize_append]
  omega

/-- Of two keys that cover one address the one with fewer characters has fewer bytes. -/
theorem length_le_iff_of_covers {key other address : String} (h : covers key address = true)
    (h' : covers other address = true) :
    key.length ≤ other.length ↔ key.utf8ByteSize ≤ other.utf8ByteSize := by
  have hlt : ∀ {a b : String}, covers a address = true → covers b address = true →
      a.length < b.length → a.utf8ByteSize < b.utf8ByteSize := by
    intro a b ha hb hab
    exact utf8ByteSize_lt_of_prefix (prefix_of_covers ha hb (Nat.le_of_lt hab)) hab
  constructor
  · intro hle
    by_cases heq : key.length = other.length
    · rw [eq_of_covers h h' heq]
    · exact Nat.le_of_lt (hlt h h' (by omega))
  · intro hle
    by_contra hlong
    have hmore := hlt h' h (by omega)
    omega

/-- A key does not start with a blank. -/
theorem IsKey.isBlank_head? {key : String} (h : IsKey key) :
    ∀ c ∈ key.toList.head?, isBlank c = false := by
  intro c hc
  have hnot := List.head?_dropWhile_not isBlank key.toList
  rw [show key.toList.dropWhile isBlank = key.toList from h.trimStart_eq, hc] at hnot
  simpa using hnot

/-- A key does not end with a slash. -/
theorem IsKey.getLast?_ne {key : String} (h : IsKey key) : key.toList.getLast? ≠ some '/' := by
  intro hlast
  have hne : key.toList ≠ [] := by
    intro hnil
    rw [hnil] at hlast
    cases hlast
  have hslash := List.rdropWhile_eq_self_iff.mp h.rdropWhile_slash hne
  rw [List.getLast?_eq_some_getLast hne] at hlast
  rw [Option.some.inj hlast] at hslash
  exact hslash rfl

namespace Store

/-- How a store keeps its keys: in strictly increasing order, so that none of them is there twice,
without a blank in front and without a slash at the end. -/
structure Tidy (store : Store) : Prop where
  increasing : store.keys.Pairwise (· < ·)
  distinct : store.keys.Nodup
  noBlank : ∀ key ∈ store.keys, ∀ c ∈ key.toList.head?, isBlank c = false
  noSlash : ∀ key ∈ store.keys, key.toList.getLast? ≠ some '/'

/-- A key of a store covers an address, and none that covers it has more bytes. -/
structure IsLongestKey (store : Store) (address key : String) : Prop where
  mem : key ∈ store.keys
  covers : FormFetch.covers key address = true
  longest : ∀ other ∈ store.keys, FormFetch.covers other address = true →
    other.utf8ByteSize ≤ key.utf8ByteSize

theorem mem_keys_iff {store : Store} {key : String} :
    key ∈ store.keys ↔ ∃ c ∈ store.entries, c.serverUrl = key :=
  List.mem_map

theorem Reachable.tidy {store : Store} (h : store.Reachable) : store.Tidy := by
  have hincreasing : store.keys.Pairwise (· < ·) := List.pairwise_map.mpr h.ordered
  have hkeys : ∀ key ∈ store.keys, IsKey key := by
    intro key hkey
    obtain ⟨c, hc, rfl⟩ := mem_keys_iff.mp hkey
    exact h.isKey c hc
  have hdistinct : store.keys.Nodup := by
    apply hincreasing.imp
    rintro a b hlt rfl
    exact String.lt_irrefl _ hlt
  exact {
    increasing := hincreasing
    distinct := hdistinct
    noBlank := fun key hkey => (hkeys key hkey).isBlank_head?
    noSlash := fun key hkey => (hkeys key hkey).getLast?_ne }

/-- The longest key is the one of the longest entry. -/
theorem IsLongest.key {store : Store} {address : String} {c : Credentials}
    (h : store.IsLongest address c) : store.IsLongestKey address c.serverUrl := by
  refine ⟨mem_keys_iff.mpr ⟨c, h.mem, rfl⟩, h.covers, ?_⟩
  intro other hother hcov
  obtain ⟨e, he, rfl⟩ := mem_keys_iff.mp hother
  exact (length_le_iff_of_covers hcov h.covers).mp (h.longest e he hcov)

/-- There is one longest key at most. -/
theorem IsLongestKey.eq {store : Store} {address key other : String}
    (h : store.IsLongestKey address key) (h' : store.IsLongestKey address other) :
    key = other := by
  have hle := (length_le_iff_of_covers h.covers h'.covers).mpr (h'.longest key h.mem h.covers)
  have hge := (length_le_iff_of_covers h'.covers h.covers).mpr (h.longest other h'.mem h'.covers)
  exact eq_of_covers h.covers h'.covers (Nat.le_antisymm hle hge)

theorem get_of_isLongest {store : Store} (h : store.Reachable) {address : String}
    {c : Credentials} (hc : store.IsLongest (trimmed address) c) : store.get address = c := by
  rw [get, (find?_eq_some_iff h.ordered).mpr hc]
  rfl

theorem get_of_not_covers {store : Store} {address : String}
    (h : ∀ c ∈ store.entries, covers c.serverUrl (trimmed address) = false) :
    store.get address = Credentials.anonymous (trimmed address) := by
  rw [get, find?_eq_none_iff.mpr h]
  rfl

/-- Among the entries that cover an address there is a longest one. -/
theorem exists_isLongest {store : Store} {address : String}
    (h : ∃ c ∈ store.entries, covers c.serverUrl address = true) :
    ∃ c, store.IsLongest address c := by
  obtain ⟨e, he, hcov⟩ := h
  cases hfind : store.find? address with
  | none =>
    rw [find?_eq_none_iff.mp hfind e he] at hcov
    cases hcov
  | some c => exact ⟨c, isLongest_of_find? hfind⟩

/-! ## The order of changes -/

/-- The entries of a store are known from which they are. -/
theorem entries_eq_of_mem_iff {store other : Store} (h : store.Ordered) (h' : other.Ordered)
    (hmem : ∀ c, c ∈ store.entries ↔ c ∈ other.entries) : store.entries = other.entries := by
  have : Std.Irrefl fun a b : Credentials => a.serverUrl < b.serverUrl :=
    ⟨fun a => String.lt_irrefl a.serverUrl⟩
  have : Std.Antisymm fun a b : Credentials => a.serverUrl < b.serverUrl :=
    ⟨fun a b hab hba => (String.lt_irrefl _ (String.lt_trans hab hba)).elim⟩
  exact List.Pairwise.eq_of_mem_iff h h' hmem

/-- A store with some entries set one after the other. -/
def setAll (store : Store) (entries : List Credentials) : Store :=
  entries.foldl (fun store c => store.set c.serverUrl c.username c.password) store

theorem reachable_setAll {store : Store} (h : store.Reachable) (entries : List Credentials) :
    (store.setAll entries).Reachable := by
  induction entries generalizing store with
  | nil => exact h
  | cons c rest ih => exact ih (h.set c.serverUrl c.username c.password)

/-- Entries of different keys that are set are there, and those of other keys stay. -/
theorem mem_setAll_iff {store : Store} (h : store.Ordered) {entries : List Credentials}
    (hkeys : (entries.map fun c => addressKey c.serverUrl).Nodup) {c : Credentials} :
    c ∈ (store.setAll entries).entries ↔
      (∃ d ∈ entries, c = { d with serverUrl := addressKey d.serverUrl }) ∨
        c ∈ store.entries ∧ ∀ d ∈ entries, c.serverUrl ≠ addressKey d.serverUrl := by
  induction entries generalizing store with
  | nil => simp [setAll]
  | cons e rest ih =>
    rw [List.map_cons, List.nodup_cons] at hkeys
    have hnew : ∀ d ∈ rest, addressKey e.serverUrl ≠ addressKey d.serverUrl := by
      intro d hd heq
      exact hkeys.1 (List.mem_map.mpr ⟨d, hd, heq.symm⟩)
    have hset : c ∈ (store.set e.serverUrl e.username e.password).entries ↔
        c = { e with serverUrl := addressKey e.serverUrl } ∨
          c ∈ store.entries ∧ c.serverUrl ≠ addressKey e.serverUrl :=
      mem_insert_iff h
    show c ∈ ((store.set e.serverUrl e.username e.password).setAll rest).entries ↔ _
    rw [ih (h.set e.serverUrl e.username e.password) hkeys.2, hset]
    simp only [List.exists_mem_cons_iff, List.forall_mem_cons]
    constructor
    · rintro (hlater | ⟨heq | ⟨hc, hne⟩, hrest⟩)
      · exact Or.inl (Or.inr hlater)
      · exact Or.inl (Or.inl heq)
      · exact Or.inr ⟨hc, hne, hrest⟩
    · rintro ((heq | hlater) | ⟨hc, hne, hrest⟩)
      · refine Or.inr ⟨Or.inl heq, ?_⟩
        rw [heq]
        exact hnew
      · exact Or.inl hlater
      · exact Or.inr ⟨Or.inr ⟨hc, hne⟩, hrest⟩

/-- It does not matter in which order entries of different keys are set. -/
theorem entries_setAll_perm {store : Store} (h : store.Reachable) {entries more : List Credentials}
    (hperm : entries.Perm more) (hkeys : (entries.map fun c => addressKey c.serverUrl).Nodup) :
    (store.setAll more).entries = (store.setAll entries).entries := by
  have hkeys' : (more.map fun c => addressKey c.serverUrl).Nodup :=
    (hperm.map _).nodup_iff.mp hkeys
  apply entries_eq_of_mem_iff (reachable_setAll h more).ordered (reachable_setAll h entries).ordered
  intro c
  rw [mem_setAll_iff h.ordered hkeys', mem_setAll_iff h.ordered hkeys]
  simp only [hperm.mem_iff]

/-! ## Any history -/

/-- A change of a store.  The store of a payload takes the place of the old one, if the payload is
the one of a store. -/
inductive Change where
  | set (address username password : String)
  | clear (address : String)
  | load (material : String) (payload : List UInt8)

/-- A store after one more change. -/
def Change.apply (store : Store) : Change → Store
  | .set address username password => store.set address username password
  | .clear address => store.clear address
  | .load material payload => (Vault.unlock material payload).toOption.getD store

/-- The store after some changes, of which the first finds it empty. -/
def after (changes : List Change) : Store :=
  changes.foldl Change.apply {}

/-- A payload gives a store that comes about by the operations on stores. -/
theorem reachable_of_unlock {material : String} {payload : List UInt8} {store : Store}
    (h : Vault.unlock material payload = .ok store) : store.Reachable := by
  unfold Vault.unlock at h
  split at h
  · cases h
  · split at h
    · cases h
    · cases h
      exact Reachable.loaded _

theorem Reachable.apply {store : Store} (h : store.Reachable) (change : Change) :
    (change.apply store).Reachable := by
  cases change with
  | set address username password => exact h.set address username password
  | clear address => exact h.clear address
  | load material payload =>
    show Reachable ((Vault.unlock material payload).toOption.getD store)
    cases hunlock : Vault.unlock material payload with
    | error fault => exact h
    | ok other => exact reachable_of_unlock hunlock

theorem reachable_after (changes : List Change) : (after changes).Reachable := by
  have hrun : ∀ (changes : List Change) (store : Store), store.Reachable →
      (changes.foldl Change.apply store).Reachable := by
    intro changes
    induction changes with
    | nil => exact fun store h => h
    | cons change rest ih => exact fun store h => ih _ (h.apply change)
  exact hrun changes {} Reachable.new

/-- After any changes a look-up gives the entry of the one longest key that covers the address,
and nothing if none does.  It depends on the entries alone, not on the order in which they came. -/
theorem get_after (changes : List Change) (address : String) :
    (after changes).Tidy ∧
    ((∀ key ∈ (after changes).keys, covers key (trimmed address) = false) →
      (after changes).get address = Credentials.anonymous (trimmed address)) ∧
    ((∃ key ∈ (after changes).keys, covers key (trimmed address) = true) →
      (∃! key, (after changes).IsLongestKey (trimmed address) key) ∧
      (after changes).IsLongestKey (trimmed address) ((after changes).get address).serverUrl ∧
      (after changes).get address ∈ (after changes).entries) ∧
    (∀ others, (∀ c, c ∈ (after others).entries ↔ c ∈ (after changes).entries) →
      (after others).get address = (after changes).get address) ∧
    ∀ entries more : List Credentials, entries.Perm more →
      (entries.map fun c => addressKey c.serverUrl).Nodup →
        ((after changes).setAll more).get address =
          ((after changes).setAll entries).get address := by
  have hreachable := reachable_after changes
  refine ⟨hreachable.tidy, ?_, ?_, ?_, ?_⟩
  · intro hnone
    apply get_of_not_covers
    intro c hc
    exact hnone c.serverUrl (mem_keys_iff.mpr ⟨c, hc, rfl⟩)
  · rintro ⟨key, hkey, hcov⟩
    obtain ⟨e, he, rfl⟩ := mem_keys_iff.mp hkey
    obtain ⟨c, hc⟩ := exists_isLongest ⟨e, he, hcov⟩
    rw [get_of_isLongest hreachable hc]
    exact ⟨⟨c.serverUrl, hc.key, fun other hother => hother.eq hc.key⟩, hc.key, hc.mem⟩
  · intro others hmem
    exact get_congr (entries_eq_of_mem_iff (reachable_after others).ordered hreachable.ordered
      hmem) address
  · intro entries more hperm hkeys
    exact get_congr (entries_setAll_perm hreachable hperm hkeys) address

/-- A server and a project on it are set, and another server is cleared. -/
def projectChanges : List Change :=
  [.set "https://example.com" "root" "a", .set " https://example.com/project/7/" "user" "b",
    .clear "https://example.org"]

theorem get_after_project :
    (∃! key, (after projectChanges).IsLongestKey
      (trimmed "https://example.com/project/7/formList ") key) ∧
      (after projectChanges).get "https://example.com/project/7/formList " =
        ⟨"https://example.com/project/7", "user", "b"⟩ := by
  have hcovered : ∃ key ∈ (after projectChanges).keys,
      covers key (trimmed "https://example.com/project/7/formList ") = true := by
    decide +kernel
  obtain ⟨-, -, hsome, -, -⟩ :=
    get_after projectChanges "https://example.com/project/7/formList "
  exact ⟨(hsome hcovered).1, by decide +kernel⟩

end Store

end FormFetch
