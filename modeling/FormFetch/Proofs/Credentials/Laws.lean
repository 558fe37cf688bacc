import FormFetch.Proofs.Credentials.History

/-!
# The laws of a credential store

A change of a store is seen at the addresses that its key covers, and where no longer key covers
them too; everywhere else a look-up gives what it gave.

* `Store.leads_addressKey`: the key of an address is the longest one that can cover it.
* `Store.set_inj`: a store shows which credentials were set last.
* `Store.AllBut` compares two lists of entries, and `Store.allBut_clear` says what is left when an
  address is cleared.
* `Store.NeverHeld` are the stores that were never given an entry of a key, and
  `Store.exists_neverHeld` finds one that has all the other entries of a store.
  `Store.get_clear_of_neverHeld` says that clearing makes the two alike.
* `Store.set_clear_get` puts the laws together.
-/

namespace FormFetch.Store

open Text

/-! ## The key of an address -/

/-- No key that covers an address is longer than the key of the address. -/
theorem leads_addressKey {store : Store} (h : store.Reachable) {address : String}
    (hne : addressKey address ≠ "") : store.Leads (addressKey address) (trimmed address) := by
  refine ⟨covers_addressKey hne, ?_⟩
  intro c hc hcov
  by_contra hlong
  obtain ⟨tail, happend, hslashes⟩ := exists_addressKey_append address
  have hstart := prefix_of_covers (covers_addressKey hne) hcov (by omega)
  obtain ⟨more, hmore⟩ := hstart
  -- A longer key would end with one of the slashes.
  have hslash : ∀ c ∈ more, c = '/' := by
    have hstarts := (covers_iff.mp hcov).2.1
    rw [happend, ← hmore, List.prefix_append_right_inj] at hstarts
    exact fun c hc => hslashes c (hstarts.mem hc)
  have hnonempty : more ≠ [] := by
    rintro rfl
    rw [List.append_nil] at hmore
    rw [String.toList_inj.mp hmore] at hlong
    omega
  apply (h.isKey c hc).getLast?_ne
  rw [← hmore, List.getLast?_append_of_ne_nil _ hnonempty,
    List.getLast?_eq_some_getLast hnonempty]
  exact congrArg some (hslash _ (List.getLast_mem hnonempty))

/-! ## Entries of one key -/

/-- Two entries of one key have the same place. -/
theorem insert_inj {entry entry' : Credentials} {entries : List Credentials}
    (hkey : entry'.serverUrl = entry.serverUrl) (h : insert entry' entries = insert entry entries) :
    entry' = entry := by
  induction entries with
  | nil => exact (List.cons.inj h).1
  | cons e rest ih =>
    rw [insert, insert, hkey] at h
    split at h
    · exact (List.cons.inj h).1
    · split at h
      · exact (List.cons.inj h).1
      · exact ih (List.cons.inj h).2

/-- Different credentials for one address make different stores. -/
theorem set_inj {store : Store} {address username password username' password' : String}
    (h : store.set address username' password' = store.set address username password) :
    username' = username ∧ password' = password := by
  have hentry : (⟨addressKey address, username', password'⟩ : Credentials) =
      ⟨addressKey address, username, password⟩ :=
    insert_inj rfl (Store.mk.inj h).1
  exact (Credentials.mk.inj hentry).2

/-! ## What is left without a key -/

/-- The entries in `few` are those in `entries` whose key is another one. -/
def AllBut (key : String) (few entries : List Credentials) : Prop :=
  ∀ c, c ∈ few ↔ c ∈ entries ∧ c.serverUrl ≠ key

section AllBut

variable {key : String} {few entries : List Credentials} {entry : Credentials}

/-- An entry of the key is not missed. -/
theorem AllBut.insert_self (h : AllBut key few entries) (hentries : Increasing entries)
    (hkey : entry.serverUrl = key) : AllBut key few (insert entry entries) := by
  intro c
  rw [h, mem_insert_iff hentries, hkey]
  constructor
  · rintro ⟨hc, hne⟩
    exact ⟨Or.inr ⟨hc, hne⟩, hne⟩
  · rintro ⟨rfl | ⟨hc, -⟩, hne⟩
    · exact (hne hkey).elim
    · exact ⟨hc, hne⟩

/-- An entry of another key is put into both. -/
theorem AllBut.insert_other (h : AllBut key few entries) (hfew : Increasing few)
    (hentries : Increasing entries) (hkey : entry.serverUrl ≠ key) :
    AllBut key (insert entry few) (insert entry entries) := by
  intro c
  rw [mem_insert_iff hfew, mem_insert_iff hentries, h]
  constructor
  · rintro (rfl | ⟨⟨hc, hne⟩, hother⟩)
    · exact ⟨Or.inl rfl, hkey⟩
    · exact ⟨Or.inr ⟨hc, hother⟩, hne⟩
  · rintro ⟨rfl | ⟨hc, hother⟩, hne⟩
    · exact Or.inl rfl
    · exact Or.inr ⟨⟨hc, hne⟩, hother⟩

end AllBut

theorem contains_iff {store : Store} {address : String} :
    store.contains address = true ↔ addressKey address ∈ store.keys := by
  unfold contains
  rw [List.any_eq_true, mem_keys_iff]
  simp only [beq_iff_eq]

/-- An address that is cleared has no entry any more, and the other entries stay. -/
theorem allBut_clear (store : Store) (address : String) :
    AllBut (addressKey address) (store.clear address).entries store.entries := by
  intro c
  unfold clear
  by_cases hcontains : store.contains address = true
  · rw [if_pos hcontains, List.mem_filter, bne_iff_ne]
  · rw [if_neg hcontains]
    constructor
    · intro hc
      refine ⟨hc, fun heq => hcontains ?_⟩
      exact contains_iff.mpr (mem_keys_iff.mpr ⟨c, hc, heq⟩)
    · intro hc
      exact hc.1

/-- Clearing an address undoes setting it, if it was not set before. -/
theorem entries_clear_set {store : Store} (h : store.Reachable) {address : String}
    (hnot : addressKey address ∉ store.keys) (username password : String) :
    ((store.set address username password).clear address).entries = store.entries := by
  have hset := h.set address username password
  apply entries_eq_of_mem_iff (hset.clear address).ordered h.ordered
  intro c
  have hself : AllBut (addressKey address) store.entries store.entries := by
    intro c
    refine ⟨fun hc => ⟨hc, fun heq => hnot (mem_keys_iff.mpr ⟨c, hc, heq⟩)⟩, ?_⟩
    exact fun hc => hc.1
  have hagain : AllBut (addressKey address) store.entries
      (store.set address username password).entries := hself.insert_self h.ordered rfl
  rw [allBut_clear, hagain]

/-! ## Stores that never held a key -/

/-- The stores that come about without an entry of a key ever being put in. -/
inductive NeverHeld (key : String) : Store → Prop where
  | new : NeverHeld key {}
  | loaded (entries : List Credentials) (hnot : ∀ c ∈ entries, addressKey c.serverUrl ≠ key) :
      NeverHeld key (ofEntries entries)
  | set {store : Store} (h : NeverHeld key store) (address username password : String)
      (hnot : addressKey address ≠ key) : NeverHeld key (store.set address username password)
  | clear {store : Store} (h : NeverHeld key store) (address : String) :
      NeverHeld key (store.clear address)

theorem NeverHeld.reachable {key : String} {store : Store} (h : NeverHeld key store) :
    store.Reachable := by
  induction h with
  | new => exact Reachable.new
  | loaded entries hnot => exact Reachable.loaded entries
  | set _ address username password hnot ih => exact ih.set address username password
  | clear _ address ih => exact ih.clear address

theorem NeverHeld.notMem {key : String} {store : Store} (h : NeverHeld key store) :
    key ∉ store.keys := by
  rw [mem_keys_iff]
  rintro ⟨c, hc, heq⟩
  induction h with
  | new => cases hc
  | loaded entries hnot =>
    obtain ⟨d, hd, rfl⟩ := exists_of_mem_ofEntries hc
    exact hnot d hd heq
  | @set store hstore address username password hnot ih =>
    rcases eq_or_mem_of_mem_insert hc with rfl | hc
    · exact hnot heq
    · exact ih hc
  | clear hstore address ih => exact ih ((allBut_clear _ address c).mp hc).1

/-- The entries of a key can be left out before entries are put in. -/
theorem allBut_ofEntries (entries : List Credentials) (key : String) :
    AllBut key (ofEntries (entries.filter fun c => addressKey c.serverUrl != key)).entries
      (ofEntries entries).entries := by
  let put := fun (kept : List Credentials) (c : Credentials) =>
    insert { c with serverUrl := addressKey c.serverUrl } kept
  have hfold : ∀ (more few kept : List Credentials), Increasing few → Increasing kept →
      AllBut key few kept →
      AllBut key ((more.filter fun c => addressKey c.serverUrl != key).foldl put few)
        (more.foldl put kept) := by
    intro more
    induction more with
    | nil => exact fun few kept _ _ h => h
    | cons d rest ih =>
      intro few kept hfew hkept h
      by_cases hkey : addressKey d.serverUrl = key
      · rw [List.filter_cons_of_neg (by simp [hkey])]
        exact ih few (put kept d) hfew (hkept.insert _) (h.insert_self hkept hkey)
      · rw [List.filter_cons_of_pos (by simp [hkey])]
        exact ih (put few d) (put kept d) (hfew.insert _) (hkept.insert _)
          (h.insert_other hfew hkept hkey)
  exact hfold entries [] [] List.Pairwise.nil List.Pairwise.nil fun c => by simp

/-- Without ever being given an entry of a key a store can have all the other entries of
another store. -/
theorem exists_neverHeld {store : Store} (h : store.Reachable) (key : String) :
    ∃ other, NeverHeld key other ∧ AllBut key other.entries store.entries := by
  induction h with
  | new => exact ⟨{}, NeverHeld.new, fun c => by simp⟩
  | loaded entries =>
    refine ⟨_, NeverHeld.loaded _ ?_, allBut_ofEntries entries key⟩
    intro c hc
    exact bne_iff_ne.mp (List.mem_filter.mp hc).2
  | @set store h address username password ih =>
    obtain ⟨other, hother, hbut⟩ := ih
    by_cases hkey : addressKey address = key
    · exact ⟨other, hother, hbut.insert_self h.ordered hkey⟩
    · exact ⟨_, hother.set address username password hkey,
        hbut.insert_other hother.reachable.ordered h.ordered hkey⟩
  | @clear store h address ih =>
    obtain ⟨other, hother, hbut⟩ := ih
    refine ⟨_, hother.clear address, fun c => ?_⟩
    rw [allBut_clear, allBut_clear, hbut]
    exact and_right_comm

/-- A store that is cleared at an address is like one that never held its key. -/
theorem get_clear_of_neverHeld {store other : Store} (h : store.Reachable) {address : String}
    (hother : NeverHeld (addressKey address) other)
    (hbut : AllBut (addressKey address) other.entries store.entries) (wanted : String) :
    (store.clear address).get wanted = other.get wanted := by
  apply get_congr
  apply entries_eq_of_mem_iff (h.clear address).ordered hother.reachable.ordered
  intro c
  rw [allBut_clear, hbut]

/-! ## The laws -/

/-- Setting an address is seen where its key is the longest one, and at the address itself; clearing
it makes the store like one that never held the key, and undoes setting it. -/
theorem set_clear_get {store : Store} (h : store.Reachable) (address username password : String) :
    (∀ wanted, (store.set address username password).get wanted =
      if store.Leads (addressKey address) (trimmed wanted) then
        ⟨addressKey address, username, password⟩
      else store.get wanted) ∧
    (addressKey address ≠ "" → (store.set address username password).get address =
      ⟨addressKey address, username, password⟩) ∧
    (store.contains address = true ↔ addressKey address ∈ store.keys) ∧
    (∃ other, NeverHeld (addressKey address) other ∧
      AllBut (addressKey address) other.entries store.entries) ∧
    (∀ other, NeverHeld (addressKey address) other →
      AllBut (addressKey address) other.entries store.entries →
        addressKey address ∉ other.keys ∧
          ∀ wanted, (store.clear address).get wanted = other.get wanted) ∧
    (∀ wanted c, c ∈ store.entries → c.serverUrl ≠ addressKey address →
      covers c.serverUrl (trimmed wanted) = true →
      (∀ d ∈ store.entries, d.serverUrl ≠ addressKey address →
        covers d.serverUrl (trimmed wanted) = true → d.serverUrl.length ≤ c.serverUrl.length) →
      (store.clear address).get wanted = c) ∧
    (∀ wanted, (∀ c ∈ store.entries, c.serverUrl ≠ addressKey address →
      covers c.serverUrl (trimmed wanted) = false) →
      (store.clear address).get wanted = Credentials.anonymous (trimmed wanted)) ∧
    (addressKey address ∉ store.keys →
      ((store.set address username password).clear address).entries = store.entries) := by
  have hset := get_set_eq h.ordered address username password
  refine ⟨hset, ?_, contains_iff, exists_neverHeld h (addressKey address), ?_, ?_, ?_, ?_⟩
  · intro hne
    rw [hset, if_pos (leads_addressKey h hne)]
  · intro other hother hbut
    exact ⟨hother.notMem, get_clear_of_neverHeld h hother hbut⟩
  · intro wanted c hc hne hcov hlongest
    apply get_of_isLongest (h.clear address)
    refine ⟨(allBut_clear store address c).mpr ⟨hc, hne⟩, hcov, ?_⟩
    intro d hd
    obtain ⟨hd, hother⟩ := (allBut_clear store address d).mp hd
    exact hlongest d hd hother
  · intro wanted hnone
    apply get_of_not_covers
    intro c hc
    obtain ⟨hc, hne⟩ := (allBut_clear store address c).mp hc
    exact hnone c hc hne
  · intro hnot
    exact entries_clear_set h hnot username password

/-- An entry for a server and one for a project on it. -/
def serverAndProject : Store :=
  (({} : Store).set "https://example.com" "root" "a").set "https://example.com/project/7" "user" "b"

theorem set_clear_get_project :
    serverAndProject.Reachable ∧
      (serverAndProject.set " https://example.com/project/7// " "new" "c").get
        "https://example.com/project/7/formList" = ⟨"https://example.com/project/7", "new", "c"⟩ ∧
      (serverAndProject.clear "https://example.com/project/7/").get
        "https://example.com/project/7/formList" = ⟨"https://example.com", "root", "a"⟩ := by
  have hreachable : serverAndProject.Reachable := (Reachable.new.set _ _ _).set _ _ _
  have hset := (set_clear_get hreachable " https://example.com/project/7// " "new" "c").1
    "https://example.com/project/7/formList"
  obtain ⟨-, -, -, -, -, hnext, -, -⟩ :=
    set_clear_get hreachable "https://example.com/project/7/" "" ""
  refine ⟨hreachable, ?_, ?_⟩
  · rw [hset, if_pos (by decide +kernel)]
    decide +kernel
  · exact hnext _ _ (by decide +kernel) (by decide +kernel) (by decide +kernel) (by decide +kernel)

end FormFetch.Store
