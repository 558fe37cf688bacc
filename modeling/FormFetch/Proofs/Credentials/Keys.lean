import Mathlib.Data.List.DropRight
import FormFetch.Proofs.Credentials.Lookup

/-!
# The keys of a store

An address becomes a key when its blank ends and then the slashes at its end are dropped.
A key that ends with a blank becomes another key when this is done once more.

* `IsKey.addressKey_eq_iff` says for which keys nothing more is dropped.
* `Store.Reachable.isKey`: the keys of a store are keys of addresses.
* `Store.exists_lost_key`: of the keys that become others the longest one is lost.
* `Store.entries_ofEntries_iff` says which stores come back when they are built from their
  own entries.
-/

namespace FormFetch

open Text

/-! ## The shape of a key -/

/-- A key as the store writes it. -/
def IsKey (key : String) : Prop :=
  ∃ address, key = addressKey address

/-- A blank stands at the end. -/
def endsBlank (key : String) : Bool :=
  key.toList.getLast?.any isBlank

theorem dropEndWhile_eq_rdropWhile {α : Type} (p : α → Bool) (xs : List α) :
    dropEndWhile p xs = xs.rdropWhile p := rfl

theorem toList_addressKey (address : String) :
    (addressKey address).toList =
      ((trimStart address.toList).rdropWhile isBlank).rdropWhile (· == '/') := by
  rw [addressKey, String.toList_ofList]
  rfl

/-- A prefix of a trimmed text has no leading blank either. -/
theorem trimStart_of_prefix {cs ds : List Char} (h : ds <+: trimStart cs) : trimStart ds = ds := by
  cases ds with
  | nil => rfl
  | cons d more =>
    obtain ⟨tail, htail⟩ := h
    have hd : isBlank d = false := by
      have hnot := List.head?_dropWhile_not isBlank cs
      rw [show cs.dropWhile isBlank = d :: (more ++ tail) from htail.symm] at hnot
      simpa using hnot
    show (d :: more).dropWhile isBlank = d :: more
    rw [List.dropWhile_cons, hd]
    rfl

theorem prefix_trimStart (address : String) :
    (addressKey address).toList <+: trimStart address.toList := by
  rw [toList_addressKey]
  exact (List.rdropWhile_prefix _ _).trans (List.rdropWhile_prefix _ _)

/-- A key has no leading blank. -/
theorem IsKey.trimStart_eq {key : String} (h : IsKey key) : trimStart key.toList = key.toList := by
  obtain ⟨address, rfl⟩ := h
  exact trimStart_of_prefix (prefix_trimStart address)

/-- A key has no slash at its end. -/
theorem IsKey.rdropWhile_slash {key : String} (h : IsKey key) :
    key.toList.rdropWhile (· == '/') = key.toList := by
  obtain ⟨address, rfl⟩ := h
  rw [toList_addressKey]
  exact List.rdropWhile_idempotent _ _

/-- A key with a slash behind it has no blank ends. -/
theorem IsKey.trimmed_slash {key : String} (h : IsKey key) (hne : key ≠ "") :
    trimmed (key ++ "/") = key ++ "/" := by
  have hlist : key.toList ≠ [] := fun hnil => hne (String.toList_inj.mp hnil)
  have hstart : trimStart (key.toList ++ ['/']) = key.toList ++ ['/'] := by
    obtain ⟨c, more, hcons⟩ := List.exists_cons_of_ne_nil hlist
    have htrim := h.trimStart_eq
    rw [hcons] at htrim ⊢
    have hc : isBlank c = false := by
      by_contra hblank
      have hlength := congrArg List.length htrim
      rw [trimStart, List.dropWhile_cons_of_pos (by simpa using hblank)] at hlength
      have hle := (List.dropWhile_suffix isBlank (l := more)).length_le
      rw [List.length_cons] at hlength
      omega
    rw [List.cons_append, trimStart, List.dropWhile_cons_of_neg (by simp [hc])]
  rw [trimmed, String.toList_append, trim]
  show String.ofList (trimEnd (trimStart (key.toList ++ ['/']))) = _
  rw [hstart, trimEnd, dropEndWhile_eq_rdropWhile, List.rdropWhile_concat_neg _ _ _ (by decide),
    String.ofList_append, String.ofList_toList]

theorem infixes_address (address : String) : (addressKey address).toList <:+: address.toList :=
  (prefix_trimStart address).isInfix.trans (List.dropWhile_suffix isBlank).isInfix

/-- A key that is not the address itself is shorter. -/
theorem length_addressKey_lt {address : String} (h : addressKey address ≠ address) :
    (addressKey address).length < address.length := by
  have hpart := infixes_address address
  rw [← String.length_toList, ← String.length_toList]
  refine Nat.lt_of_le_of_ne hpart.length_le fun hlength => ?_
  exact h (String.toList_inj.mp (hpart.eq_of_length hlength))

/-- A key is its own key if it does not end with a blank. -/
theorem IsKey.addressKey_eq_iff {key : String} (h : IsKey key) :
    addressKey key = key ↔ endsBlank key = false := by
  have hkey : (addressKey key).toList =
      (key.toList.rdropWhile isBlank).rdropWhile (· == '/') := by
    rw [toList_addressKey, h.trimStart_eq]
  have hplain : endsBlank key = false ↔ key.toList.rdropWhile isBlank = key.toList := by
    rw [List.rdropWhile_eq_self_iff, endsBlank]
    by_cases hnil : key.toList = []
    · simp [hnil]
    · simp [List.getLast?_eq_some_getLast hnil, hnil]
  rw [hplain, ← String.toList_inj, hkey]
  constructor
  · intro heq
    -- What both steps together do not shorten the first one does not shorten.
    have hle := (List.rdropWhile_prefix (· == '/') (key.toList.rdropWhile isBlank)).length_le
    rw [heq] at hle
    exact (List.rdropWhile_prefix isBlank key.toList).eq_of_length_le hle
  · intro hblank
    rw [hblank, h.rdropWhile_slash]

namespace Store

/-! ## The keys of a store -/

theorem exists_of_mem_ofEntries {entries : List Credentials} {c : Credentials}
    (h : c ∈ (ofEntries entries).entries) :
    ∃ d ∈ entries, c = { d with serverUrl := addressKey d.serverUrl } := by
  have hfold : ∀ (more kept : List Credentials),
      c ∈ more.foldl
        (fun kept c => insert { c with serverUrl := addressKey c.serverUrl } kept) kept →
      c ∈ kept ∨ ∃ d ∈ more, c = { d with serverUrl := addressKey d.serverUrl } := by
    intro more
    induction more with
    | nil => exact fun kept hc => Or.inl hc
    | cons d rest ih =>
      intro kept hc
      rcases ih _ hc with hc | ⟨e, he, heq⟩
      · rcases eq_or_mem_of_mem_insert hc with heq | hc
        · exact Or.inr ⟨d, List.mem_cons_self .., heq⟩
        · exact Or.inl hc
      · exact Or.inr ⟨e, List.mem_cons_of_mem _ he, heq⟩
  rcases hfold entries [] h with hc | hc
  · cases hc
  · exact hc

/-- Every key of a store is the key of an address. -/
theorem Reachable.isKey {store : Store} (h : store.Reachable) :
    ∀ c ∈ store.entries, IsKey c.serverUrl := by
  induction h with
  | new =>
    intro c hc
    cases hc
  | loaded entries =>
    intro c hc
    obtain ⟨d, -, rfl⟩ := exists_of_mem_ofEntries hc
    exact ⟨d.serverUrl, rfl⟩
  | set _ address username password ih =>
    intro c hc
    rcases eq_or_mem_of_mem_insert hc with rfl | hc
    · exact ⟨address, rfl⟩
    · exact ih c hc
  | @clear store _ address ih =>
    intro c hc
    unfold Store.clear at hc
    split at hc
    · exact ih c (List.mem_filter.mp hc).1
    · exact ih c hc

/-! ## A store of its own entries -/

theorem insert_of_lt {entry : Credentials} {entries : List Credentials}
    (h : ∀ c ∈ entries, c.serverUrl < entry.serverUrl) : insert entry entries = entries ++ [entry] := by
  induction entries with
  | nil => rfl
  | cons e rest ih =>
    have hlt := h e (List.mem_cons_self ..)
    have hnot : ¬entry.serverUrl < e.serverUrl := String.lt_asymm hlt
    have hne : entry.serverUrl ≠ e.serverUrl := by
      intro heq
      rw [heq] at hlt
      exact String.lt_irrefl _ hlt
    rw [insert, if_neg hnot, if_neg hne, ih fun c hc => h c (List.mem_cons_of_mem _ hc)]
    rfl

/-- Entries in order whose keys are their own keys stay as they are. -/
theorem entries_ofEntries {entries : List Credentials} (h : Increasing entries)
    (hkeys : ∀ c ∈ entries, addressKey c.serverUrl = c.serverUrl) :
    (ofEntries entries).entries = entries := by
  -- Each entry is put behind those that are kept already.
  have hfold : ∀ (more kept : List Credentials), Increasing (kept ++ more) →
      (∀ c ∈ more, addressKey c.serverUrl = c.serverUrl) →
      more.foldl
        (fun kept c => insert { c with serverUrl := addressKey c.serverUrl } kept) kept =
          kept ++ more := by
    intro more
    induction more with
    | nil =>
      intro kept _ _
      exact (List.append_nil kept).symm
    | cons c rest ih =>
      intro kept hincreasing hown
      have hlt : ∀ d ∈ kept, d.serverUrl < c.serverUrl := fun d hd =>
        (List.pairwise_append.mp hincreasing).2.2 d hd c (List.mem_cons_self ..)
      have hself : { c with serverUrl := addressKey c.serverUrl } = c := by
        rw [hown c (List.mem_cons_self ..)]
      have happend : kept ++ c :: rest = kept ++ [c] ++ rest := by
        rw [List.append_assoc]
        rfl
      rw [List.foldl_cons, hself, insert_of_lt hlt, happend]
      rw [happend] at hincreasing
      exact ih _ hincreasing fun d hd => hown d (List.mem_cons_of_mem _ hd)
  exact hfold entries [] h hkeys

/-- Of the keys that are not their own keys there is a longest one. -/
theorem exists_longest_of_ne {entries : List Credentials}
    (h : ∃ c ∈ entries, addressKey c.serverUrl ≠ c.serverUrl) :
    ∃ c ∈ entries, addressKey c.serverUrl ≠ c.serverUrl ∧
      ∀ d ∈ entries, addressKey d.serverUrl ≠ d.serverUrl →
        d.serverUrl.length ≤ c.serverUrl.length := by
  obtain ⟨a, ha, hne⟩ := h
  have hmem : ∀ c, c ∈ entries.filter (fun c => addressKey c.serverUrl ≠ c.serverUrl) ↔
      c ∈ entries ∧ addressKey c.serverUrl ≠ c.serverUrl := by
    intro c
    rw [List.mem_filter, decide_eq_true_iff]
  rcases foldl_longer (entries.filter fun c => addressKey c.serverUrl ≠ c.serverUrl) none with
    ⟨hnil, -⟩ | ⟨c, -, hc, hlongest, -⟩
  · have ha := (hmem a).mpr ⟨ha, hne⟩
    rw [hnil] at ha
    cases ha
  · obtain ⟨hc, hne⟩ := (hmem c).mp (hc.resolve_right (by simp))
    exact ⟨c, hc, hne, fun d hd hne => hlongest d ((hmem d).mpr ⟨hd, hne⟩)⟩

/-- The longest key that is not its own key is lost. -/
theorem exists_lost_key {entries : List Credentials}
    (h : ∃ c ∈ entries, addressKey c.serverUrl ≠ c.serverUrl) :
    ∃ c ∈ entries, addressKey c.serverUrl ≠ c.serverUrl ∧
      ∀ d ∈ (ofEntries entries).entries, d.serverUrl ≠ c.serverUrl := by
  obtain ⟨c, hc, hne, hlongest⟩ := exists_longest_of_ne h
  refine ⟨c, hc, hne, ?_⟩
  intro d hd heq
  obtain ⟨e, he, rfl⟩ := exists_of_mem_ofEntries hd
  have heq : addressKey e.serverUrl = c.serverUrl := heq
  by_cases hown : addressKey e.serverUrl = e.serverUrl
  · -- A key that is its own key is no other key's.
    rw [heq] at hown
    rw [← hown] at heq
    exact hne heq
  · have hlt := length_addressKey_lt hown
    have hle := hlongest e he hown
    rw [heq] at hlt
    omega

theorem get_congr {store other : Store} (h : store.entries = other.entries) (address : String) :
    store.get address = other.get address := by
  rw [get, get, find?, find?, h]

/-- A look-up shows a key of the store or the looked-up address. -/
theorem serverUrl_get (store : Store) (address : String) :
    (∃ c ∈ store.entries, (store.get address).serverUrl = c.serverUrl) ∨
      (store.get address).serverUrl = trimmed address := by
  rw [get]
  cases hfind : store.find? (trimmed address) with
  | none => exact Or.inr rfl
  | some c => exact Or.inl ⟨c, (isLongest_of_find? hfind).mem, rfl⟩

/-- Behind a slash after its key every entry is found. -/
theorem get_slash {store : Store} (hstore : store.Reachable) {c : Credentials}
    (hc : c ∈ store.entries) (hne : c.serverUrl ≠ "") : store.get (c.serverUrl ++ "/") = c := by
  have hcovers : covers c.serverUrl (c.serverUrl ++ "/") = true := by
    refine covers_iff.mpr ⟨hne, ?_, ?_⟩
    · rw [String.toList_append]
      exact List.prefix_append _ _
    · rw [String.toList_append, List.drop_left]
      rfl
  have hlongest : store.IsLongest (c.serverUrl ++ "/") c := by
    refine ⟨hc, hcovers, fun e he hcov => ?_⟩
    have hstart : e.serverUrl.toList <+: c.serverUrl.toList ++ ['/'] := by
      have h := (covers_iff.mp hcov).2.1
      rwa [String.toList_append] at h
    -- A longer key would end with the slash, which no key does.
    rcases List.prefix_concat_iff.mp hstart with heq | hstart
    · have hslash := (hstore.isKey e he).rdropWhile_slash
      rw [heq, List.rdropWhile_concat_pos _ _ _ rfl] at hslash
      have hlength := congrArg List.length hslash
      have hle := (List.rdropWhile_prefix (· == '/') c.serverUrl.toList).length_le
      rw [List.length_append, List.length_singleton] at hlength
      omega
    · rw [← String.length_toList, ← String.length_toList]
      exact hstart.length_le
  rw [get, (hstore.isKey c hc).trimmed_slash hne, (find?_eq_some_iff hstore.ordered).mpr hlongest]
  rfl

/-- The entries of a store come back exactly if all its keys are their own keys, and exactly then
every look-up gives the same. -/
theorem entries_ofEntries_iff {store : Store} (hstore : store.Reachable) :
    ((ofEntries store.entries).entries = store.entries ↔
      ∀ c ∈ store.entries, endsBlank c.serverUrl = false) ∧
    ((∀ address, (ofEntries store.entries).get address = store.get address) ↔
      ∀ c ∈ store.entries, endsBlank c.serverUrl = false) := by
  have hplain : (∀ c ∈ store.entries, endsBlank c.serverUrl = false) →
      (ofEntries store.entries).entries = store.entries := by
    intro h
    apply entries_ofEntries hstore.ordered
    intro c hc
    exact (hstore.isKey c hc).addressKey_eq_iff.mpr (h c hc)
  have hback : (∀ address, (ofEntries store.entries).get address = store.get address) →
      ∀ c ∈ store.entries, endsBlank c.serverUrl = false := by
    intro h
    by_contra hblank
    have hexists : ∃ c ∈ store.entries, addressKey c.serverUrl ≠ c.serverUrl := by
      by_contra hnone
      push Not at hnone
      exact hblank fun c hc => (hstore.isKey c hc).addressKey_eq_iff.mp (hnone c hc)
    obtain ⟨c, hc, hne, hlost⟩ := exists_lost_key hexists
    have hempty : c.serverUrl ≠ "" := by
      intro heq
      rw [heq] at hne
      exact hne rfl
    have hget := h (c.serverUrl ++ "/")
    rw [get_slash hstore hc hempty] at hget
    rcases serverUrl_get (ofEntries store.entries) (c.serverUrl ++ "/") with ⟨d, hd, heq⟩ | heq
    · rw [hget] at heq
      exact hlost d hd heq.symm
    · rw [hget, (hstore.isKey c hc).trimmed_slash hempty] at heq
      have hlength := congrArg String.length heq
      rw [String.length_append] at hlength
      have hone : "/".length = 1 := rfl
      omega
  refine ⟨⟨fun h => hback (get_congr h), hplain⟩, hback, ?_⟩
  intro h
  exact get_congr (hplain h)

end Store

end FormFetch
