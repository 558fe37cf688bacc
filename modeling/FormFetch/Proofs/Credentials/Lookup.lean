import FormFetch.Credentials.Store
import FormFetch.Proofs.Text.Trim

/-!
# Look-ups in a credential store

Which entry a look-up finds, and what a change of the store does to later look-ups.

There are four groups.

* Keys that cover an address.  Two of them of one length are the same key
  (`eq_of_covers`), and the key of an address covers it (`covers_addressKey`).
* The order of the entries.  `Store.Ordered` is the invariant that every operation
  keeps, and `Store.Reachable.ordered` is the result.
* The entry that a look-up finds.  `Store.find?_eq_some_iff` says that it is the one with
  the longest key that covers the address.
* Look-ups after a change.  `Store.get_set_eq` says which addresses see a new entry.
-/

namespace FormFetch

/-! ## Keys that cover an address -/

theorem covers_iff {key address : String} :
    covers key address = true ↔
      key ≠ "" ∧ key.toList <+: address.toList ∧
        isBoundary (address.toList.drop key.toList.length) = true := by
  simp [covers, and_assoc]

/-- Of two keys that cover one address, the one that is not longer is a prefix of the other. -/
theorem prefix_of_covers {key other address : String} (h : covers key address = true)
    (h' : covers other address = true) (hle : key.length ≤ other.length) :
    key.toList <+: other.toList := by
  obtain ⟨-, hp, -⟩ := covers_iff.mp h
  obtain ⟨-, hp', -⟩ := covers_iff.mp h'
  refine List.prefix_of_prefix_length_le hp hp' ?_
  rwa [String.length_toList, String.length_toList]

/-- Two keys of one length that cover one address are the same key. -/
theorem eq_of_covers {key other address : String} (h : covers key address = true)
    (h' : covers other address = true) (hl : key.length = other.length) : key = other := by
  have hp := prefix_of_covers h h' (Nat.le_of_eq hl)
  refine String.toList_inj.mp (hp.eq_of_length ?_)
  rwa [String.length_toList, String.length_toList]

/-- Behind the key of an address there is nothing left but slashes. -/
theorem exists_addressKey_append (address : String) :
    ∃ tail : List Char, (Text.trimmed address).toList = (addressKey address).toList ++ tail ∧
      ∀ c ∈ tail, c = '/' := by
  obtain ⟨tail, happend, hall⟩ :=
    Text.exists_append_dropEndWhile (· == '/') (Text.trim address.toList)
  refine ⟨tail, ?_, ?_⟩
  · rw [Text.trimmed, addressKey, String.toList_ofList, String.toList_ofList]
    exact happend
  · intro c hc
    exact beq_iff_eq.mp (List.all_eq_true.mp hall c hc)

/-- An address is covered by its own key, which it goes on from with slashes only. -/
theorem covers_addressKey {address : String} (h : addressKey address ≠ "") :
    covers (addressKey address) (Text.trimmed address) = true := by
  obtain ⟨tail, hkey, hslashes⟩ := exists_addressKey_append address
  refine covers_iff.mpr ⟨h, ?_, ?_⟩
  · rw [hkey]
    exact List.prefix_append _ _
  · rw [hkey, List.drop_left]
    cases tail with
    | nil => rfl
    | cons c rest =>
      rw [hslashes c (List.mem_cons_self ..)]
      rfl

namespace Store

/-! ## The order of the entries -/

/-- The keys are in strictly increasing order. -/
def Increasing (entries : List Credentials) : Prop :=
  entries.Pairwise fun a b => a.serverUrl < b.serverUrl

/-- The entries of a store are in strictly increasing order of their keys. -/
def Ordered (store : Store) : Prop :=
  Increasing store.entries

/-- The stores that come about by the operations on stores. -/
inductive Reachable : Store → Prop where
  | new : Reachable {}
  | loaded (entries : List Credentials) : Reachable (ofEntries entries)
  | set {store : Store} (h : Reachable store) (address username password : String) :
      Reachable (store.set address username password)
  | clear {store : Store} (h : Reachable store) (address : String) :
      Reachable (store.clear address)

theorem lt_of_not_lt_of_ne {a b : String} (h : ¬a < b) (hne : a ≠ b) : b < a := by
  by_cases hba : b < a
  · exact hba
  · exact absurd (String.le_antisymm (String.not_lt.mp hba) (String.not_lt.mp h)) hne

/-- Whatever is in the list after an insertion was there before, or is the new entry. -/
theorem eq_or_mem_of_mem_insert {entry c : Credentials} {entries : List Credentials}
    (h : c ∈ insert entry entries) : c = entry ∨ c ∈ entries := by
  induction entries with
  | nil => simpa [insert] using h
  | cons e rest ih =>
    unfold insert at h
    split at h
    · simpa using h
    · split at h
      · rcases List.mem_cons.mp h with rfl | hc
        · exact Or.inl rfl
        · exact Or.inr (List.mem_cons_of_mem _ hc)
      · rcases List.mem_cons.mp h with rfl | hc
        · exact Or.inr (List.mem_cons_self ..)
        · exact (ih hc).imp_right (List.mem_cons_of_mem _)

theorem Increasing.insert {entries : List Credentials} (h : Increasing entries)
    (entry : Credentials) : Increasing (Store.insert entry entries) := by
  induction entries with
  | nil => simp [Store.insert, Increasing]
  | cons e rest ih =>
    obtain ⟨hlt, hrest⟩ := List.pairwise_cons.mp h
    unfold Store.insert
    split
    · rename_i hlt'
      refine List.pairwise_cons.mpr ⟨fun c hc => ?_, h⟩
      rcases List.mem_cons.mp hc with rfl | hc
      · exact hlt'
      · exact String.lt_trans hlt' (hlt c hc)
    · split
      · rename_i heq
        exact List.pairwise_cons.mpr ⟨fun c hc => heq ▸ hlt c hc, hrest⟩
      · rename_i hnot hne
        refine List.pairwise_cons.mpr ⟨fun c hc => ?_, ih hrest⟩
        rcases eq_or_mem_of_mem_insert hc with rfl | hc
        · exact lt_of_not_lt_of_ne hnot hne
        · exact hlt c hc

theorem ordered_new : Ordered {} :=
  List.Pairwise.nil

theorem ordered_ofEntries (entries : List Credentials) : (ofEntries entries).Ordered := by
  -- The fold starts with the empty list and only inserts.
  have hfold : ∀ (more kept : List Credentials), Increasing kept →
      Increasing (more.foldl
        (fun kept c => Store.insert { c with serverUrl := addressKey c.serverUrl } kept) kept) := by
    intro more
    induction more with
    | nil => exact fun kept h => h
    | cons c rest ih => exact fun kept h => ih _ (h.insert _)
  exact hfold entries [] List.Pairwise.nil

theorem Ordered.set {store : Store} (h : store.Ordered) (address username password : String) :
    (store.set address username password).Ordered :=
  h.insert _

theorem Ordered.clear {store : Store} (h : store.Ordered) (address : String) :
    (store.clear address).Ordered := by
  unfold Store.clear
  split
  · exact List.Pairwise.filter _ h
  · exact h

/-- The order holds in every store that comes about. -/
theorem Reachable.ordered {store : Store} (h : Reachable store) : store.Ordered := by
  induction h with
  | new => exact ordered_new
  | loaded entries => exact ordered_ofEntries entries
  | set _ address username password ih => exact ih.set address username password
  | clear _ address ih => exact ih.clear address

/-- Each key has one entry. -/
theorem Increasing.eq_of_key {entries : List Credentials} (h : Increasing entries)
    {a b : Credentials} (ha : a ∈ entries) (hb : b ∈ entries)
    (hk : a.serverUrl = b.serverUrl) : a = b := by
  induction entries with
  | nil => cases ha
  | cons e rest ih =>
    obtain ⟨hlt, hrest⟩ := List.pairwise_cons.mp h
    have hnot : ∀ c ∈ rest, c.serverUrl ≠ e.serverUrl := by
      intro c hc heq
      exact String.lt_irrefl _ (heq ▸ hlt c hc)
    rcases List.mem_cons.mp ha with hae | ha
    · rcases List.mem_cons.mp hb with hbe | hb
      · rw [hae, hbe]
      · exact absurd (by rw [← hk, hae]) (hnot b hb)
    · rcases List.mem_cons.mp hb with hbe | hb
      · exact absurd (by rw [hk, hbe]) (hnot a ha)
      · exact ih hrest ha hb

/-- An insertion leaves exactly the entries of other keys as they are. -/
theorem mem_insert_iff {entries : List Credentials} (h : Increasing entries)
    {entry c : Credentials} :
    c ∈ insert entry entries ↔ c = entry ∨ c ∈ entries ∧ c.serverUrl ≠ entry.serverUrl := by
  have hkeep : ∀ l : List Credentials, c ∈ l → c.serverUrl ≠ entry.serverUrl →
      c ∈ insert entry l := by
    intro l hc hne
    induction l with
    | nil => cases hc
    | cons e rest ih =>
      unfold insert
      split
      · exact List.mem_cons_of_mem _ hc
      · split
        · rename_i heq
          rcases List.mem_cons.mp hc with rfl | hc
          · exact absurd heq.symm hne
          · exact List.mem_cons_of_mem _ hc
        · rcases List.mem_cons.mp hc with rfl | hc
          · exact List.mem_cons_self ..
          · exact List.mem_cons_of_mem _ (ih hc)
  constructor
  · intro hc
    by_cases hk : c.serverUrl = entry.serverUrl
    · exact Or.inl ((h.insert entry).eq_of_key hc (mem_insert_self entry entries) hk)
    · rcases eq_or_mem_of_mem_insert hc with rfl | hmem
      · exact Or.inl rfl
      · exact Or.inr ⟨hmem, hk⟩
  · rintro (rfl | ⟨hc, hne⟩)
    · exact mem_insert_self c entries
    · exact hkeep entries hc hne

/-! ## The entry that a look-up finds -/

/-- An entry has the longest key of a store that covers an address. -/
structure IsLongest (store : Store) (address : String) (c : Credentials) : Prop where
  mem : c ∈ store.entries
  covers : FormFetch.covers c.serverUrl address = true
  longest : ∀ e ∈ store.entries, FormFetch.covers e.serverUrl address = true →
    e.serverUrl.length ≤ c.serverUrl.length

/-- There is one such entry at most. -/
theorem IsLongest.eq {store : Store} (h : store.Ordered) {address : String}
    {a b : Credentials} (ha : store.IsLongest address a) (hb : store.IsLongest address b) :
    a = b := by
  have hl := Nat.le_antisymm (hb.longest a ha.mem ha.covers) (ha.longest b hb.mem hb.covers)
  exact Increasing.eq_of_key h ha.mem hb.mem (eq_of_covers ha.covers hb.covers hl)

/-- The fold of a look-up ends with its start or with an entry of the list, and no entry is longer
than what it ends with. -/
theorem foldl_longer (entries : List Credentials) (best : Option Credentials) :
    (entries = [] ∧ entries.foldl longer best = best) ∨
      ∃ c, entries.foldl longer best = some c ∧ (c ∈ entries ∨ best = some c) ∧
        (∀ e ∈ entries, e.serverUrl.length ≤ c.serverUrl.length) ∧
        ∀ b, best = some b → b.serverUrl.length ≤ c.serverUrl.length := by
  induction entries generalizing best with
  | nil => exact Or.inl ⟨rfl, rfl⟩
  | cons e rest ih =>
    right
    -- The step keeps one of the two, and that one is at least as long as both.
    have hstep : ∃ d, longer best e = some d ∧ (d = e ∨ best = some d) ∧
        e.serverUrl.length ≤ d.serverUrl.length ∧
        ∀ b, best = some b → b.serverUrl.length ≤ d.serverUrl.length := by
      cases best with
      | none => exact ⟨e, rfl, Or.inl rfl, Nat.le_refl _, by simp⟩
      | some b =>
        by_cases hle : b.serverUrl.length ≤ e.serverUrl.length
        · exact ⟨e, by simp [longer, hle], Or.inl rfl, Nat.le_refl _, by simpa using hle⟩
        · refine ⟨b, by simp [longer, hle], Or.inr rfl, by omega, by simp⟩
    obtain ⟨d, hd, hmem, hed, hbd⟩ := hstep
    rw [List.foldl_cons, hd]
    rcases ih (some d) with ⟨rfl, hf⟩ | ⟨c, hf, hc, hall, hdc⟩
    · refine ⟨d, hf, ?_, ?_, hbd⟩
      · rcases hmem with rfl | hb
        · exact Or.inl (List.mem_cons_self ..)
        · exact Or.inr hb
      · simpa using hed
    · have hdc := hdc d rfl
      refine ⟨c, hf, ?_, ?_, fun b hb => Nat.le_trans (hbd b hb) hdc⟩
      · rcases hc with hc | hc
        · exact Or.inl (List.mem_cons_of_mem _ hc)
        · obtain rfl := Option.some.inj hc
          rcases hmem with rfl | hb
          · exact Or.inl (List.mem_cons_self ..)
          · exact Or.inr hb
      · intro x hx
        rcases List.mem_cons.mp hx with rfl | hx
        · exact Nat.le_trans hed hdc
        · exact hall x hx

theorem isLongest_of_find? {store : Store} {address : String} {c : Credentials}
    (h : store.find? address = some c) : store.IsLongest address c := by
  rcases foldl_longer (store.entries.filter fun c => covers c.serverUrl address) none with
    ⟨-, hf⟩ | ⟨d, hf, hd, hall, -⟩
  · rw [find?, hf] at h
    cases h
  · rw [find?, hf] at h
    obtain rfl := Option.some.inj h
    have hmem := List.mem_filter.mp (hd.resolve_right (by simp))
    exact ⟨hmem.1, hmem.2, fun e he hcov => hall e (List.mem_filter.mpr ⟨he, hcov⟩)⟩

theorem find?_eq_none_iff {store : Store} {address : String} :
    store.find? address = none ↔ ∀ c ∈ store.entries, covers c.serverUrl address = false := by
  constructor
  · intro h
    rcases foldl_longer (store.entries.filter fun c => covers c.serverUrl address) none with
      ⟨hnil, -⟩ | ⟨d, hf, -⟩
    · simpa using List.filter_eq_nil_iff.mp hnil
    · rw [find?, hf] at h
      cases h
  · intro h
    have hnil : (store.entries.filter fun c => covers c.serverUrl address) = [] :=
      List.filter_eq_nil_iff.mpr fun c hc => by simp [h c hc]
    rw [find?, hnil, List.foldl_nil]

/-- A look-up finds the entry with the longest key that covers the address. -/
theorem find?_eq_some_iff {store : Store} (h : store.Ordered) {address : String}
    {c : Credentials} : store.find? address = some c ↔ store.IsLongest address c := by
  refine ⟨isLongest_of_find?, fun hc => ?_⟩
  cases hf : store.find? address with
  | none =>
    have := find?_eq_none_iff.mp hf c hc.mem
    rw [hc.covers] at this
    cases this
  | some d => rw [(isLongest_of_find? hf).eq h hc]

/-! ## Look-ups after a change -/

/-- A key covers an address, and no longer key of the store does. -/
structure Leads (store : Store) (key address : String) : Prop where
  covers : FormFetch.covers key address = true
  longest : ∀ c ∈ store.entries, FormFetch.covers c.serverUrl address = true →
    c.serverUrl.length ≤ key.length

instance (store : Store) (key address : String) : Decidable (store.Leads key address) :=
  decidable_of_iff
    (FormFetch.covers key address = true ∧ ∀ c ∈ store.entries,
      FormFetch.covers c.serverUrl address = true → c.serverUrl.length ≤ key.length)
    ⟨fun h => ⟨h.1, h.2⟩, fun h => ⟨h.covers, h.longest⟩⟩

theorem find?_set_of_leads {store : Store} (h : store.Ordered) {address wanted : String}
    (username password : String) (hl : store.Leads (addressKey address) wanted) :
    (store.set address username password).find? wanted =
      some ⟨addressKey address, username, password⟩ := by
  rw [find?_eq_some_iff (h.set address username password)]
  refine ⟨mem_insert_self _ _, hl.covers, fun e he hcov => ?_⟩
  rcases (mem_insert_iff h).mp he with rfl | ⟨he, -⟩
  · exact Nat.le_refl _
  · exact hl.longest e he hcov

theorem find?_set_of_not_leads {store : Store} (h : store.Ordered) {address wanted : String}
    (username password : String) (hl : ¬store.Leads (addressKey address) wanted) :
    (store.set address username password).find? wanted = store.find? wanted := by
  cases hf : store.find? wanted with
  | none =>
    have hnone := find?_eq_none_iff.mp hf
    have hkey : covers (addressKey address) wanted = false := by
      refine Bool.eq_false_iff.mpr fun hcov => hl ⟨hcov, fun c hc hc' => ?_⟩
      rw [hnone c hc] at hc'
      cases hc'
    refine find?_eq_none_iff.mpr fun c hc => ?_
    rcases (mem_insert_iff h).mp hc with rfl | ⟨hc, -⟩
    · exact hkey
    · exact hnone c hc
  | some d =>
    have hd := isLongest_of_find? hf
    -- Unless the new key covers the address it is not seen; if it does, the old one is longer.
    have hlt : covers (addressKey address) wanted = true →
        (addressKey address).length < d.serverUrl.length := by
      intro hcov
      by_cases hle : d.serverUrl.length ≤ (addressKey address).length
      · exact absurd ⟨hcov, fun c hc hc' => Nat.le_trans (hd.longest c hc hc') hle⟩ hl
      · omega
    have hne : d.serverUrl ≠ addressKey address := by
      intro heq
      have := hlt (heq ▸ hd.covers)
      rw [heq] at this
      omega
    rw [find?_eq_some_iff (h.set address username password)]
    refine ⟨(mem_insert_iff h).mpr (Or.inr ⟨hd.mem, hne⟩), hd.covers, fun e he hcov => ?_⟩
    rcases (mem_insert_iff h).mp he with rfl | ⟨he, -⟩
    · exact Nat.le_of_lt (hlt hcov)
    · exact hd.longest e he hcov

/-- A new entry is seen at the addresses for which its key is the longest one; everywhere else
nothing changes. -/
theorem get_set_eq {store : Store} (h : store.Ordered) (address username password wanted : String) :
    (store.set address username password).get wanted =
      if store.Leads (addressKey address) (Text.trimmed wanted) then
        ⟨addressKey address, username, password⟩
      else store.get wanted := by
  split
  · rename_i hl
    rw [get, find?_set_of_leads h username password hl, Option.getD_some]
  · rename_i hl
    rw [get, find?_set_of_not_leads h username password hl, get]

end Store

end FormFetch
