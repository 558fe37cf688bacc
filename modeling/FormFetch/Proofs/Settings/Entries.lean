import Mathlib.Data.List.Perm.Basic
import FormFetch.Proofs.Settings.Line

/-!
# Settings as lists of entries

Settings have one entry at most for each key, and reading a file puts its entries together.

* `held?` is the entry that settings have for a key, `entries` are all of them.
* `held?_appliedAll` says that of several entries for one key the last one counts, and
  `lastFor?_of_perm` that the order of the entries of settings does not matter.
* `validate_eq_ok_iff`: the settings that are accepted are those whose values are in range.
-/

namespace FormFetch.Settings

/-! ## Settings as entries -/

/-- The entry of a key, if there is one. -/
def held? (settings : Settings) : Key → Option Entry
  | .serverUrl => settings.serverUrl.map .serverUrl
  | .username => settings.username.map .username
  | .connectTimeout => settings.connectTimeout.map .connectTimeout
  | .requestTimeout => settings.requestTimeout.map .requestTimeout
  | .verbosity => settings.verbosity.map .verbosity

/-- All entries of settings. -/
def entries (settings : Settings) : List Entry :=
  settings.serverUrl.toList.map .serverUrl ++ settings.username.toList.map .username ++
    settings.connectTimeout.toList.map .connectTimeout ++
    settings.requestTimeout.toList.map .requestTimeout ++
    settings.verbosity.toList.map .verbosity

/-- The last entry for a key. -/
def lastFor? (key : Key) (es : List Entry) : Option Entry :=
  (es.filter fun e => e.key = key).getLast?

variable {settings settings' : Settings} {es : List Entry}

theorem eq_of_held? (h : ∀ key, settings.held? key = settings'.held? key) :
    settings = settings' := by
  have hurl : settings.serverUrl = settings'.serverUrl :=
    Option.map_injective (fun _ _ => Entry.serverUrl.inj) (h .serverUrl)
  have hname : settings.username = settings'.username :=
    Option.map_injective (fun _ _ => Entry.username.inj) (h .username)
  have hconnect : settings.connectTimeout = settings'.connectTimeout :=
    Option.map_injective (fun _ _ => Entry.connectTimeout.inj) (h .connectTimeout)
  have hrequest : settings.requestTimeout = settings'.requestTimeout :=
    Option.map_injective (fun _ _ => Entry.requestTimeout.inj) (h .requestTimeout)
  have hverbosity : settings.verbosity = settings'.verbosity :=
    Option.map_injective (fun _ _ => Entry.verbosity.inj) (h .verbosity)
  cases settings
  cases settings'
  simp_all only

theorem held?_applied (settings : Settings) (e : Entry) (key : Key) :
    (e.applied settings).held? key = if e.key = key then some e else settings.held? key := by
  cases e <;> cases key <;> rfl

theorem lastFor?_cons (key : Key) (e : Entry) (es : List Entry) :
    lastFor? key (e :: es) = (lastFor? key es).or (if e.key = key then some e else none) := by
  rw [lastFor?, lastFor?, List.filter_cons]
  by_cases h : e.key = key
  · rw [if_pos (decide_eq_true h), if_pos h, List.getLast?_cons]
    cases (es.filter fun e => e.key = key).getLast? with
    | none => rfl
    | some last => rfl
  · rw [if_neg (by simpa using h), if_neg h, Option.or_none]

theorem held?_empty (key : Key) : held? {} key = none := by
  cases key <;> rfl

/-- The last entry for a key counts. -/
theorem held?_appliedAll (settings : Settings) (es : List Entry) (key : Key) :
    (appliedAll settings es).held? key = (lastFor? key es).or (settings.held? key) := by
  induction es generalizing settings with
  | nil => rfl
  | cons e es ih =>
    have hstep : appliedAll settings (e :: es) = appliedAll (e.applied settings) es := rfl
    rw [hstep, ih, held?_applied, lastFor?_cons, Option.or_assoc]
    by_cases h : e.key = key
    · rw [if_pos h, if_pos h, Option.some_or]
    · rw [if_neg h, if_neg h, Option.none_or]

theorem filter_entries (settings : Settings) (key : Key) :
    (settings.entries.filter fun e => e.key = key) = (settings.held? key).toList := by
  cases key <;>
    simp [entries, held?, List.filter_map, Function.comp_def, Entry.key, Option.toList_map]

/-- In any order, all entries of settings have each of them as the last one for its key. -/
theorem lastFor?_of_perm (h : es.Perm settings.entries) (key : Key) :
    lastFor? key es = settings.held? key := by
  have hperm := h.filter fun e => e.key = key
  rw [filter_entries] at hperm
  rw [lastFor?]
  cases hentry : settings.held? key with
  | none =>
    rw [hentry] at hperm
    rw [List.perm_nil.mp hperm, List.getLast?_nil]
  | some e =>
    rw [hentry] at hperm
    rw [List.perm_singleton.mp hperm, List.getLast?_singleton]

/-- Entries whose last ones are those of the settings make these settings. -/
theorem appliedAll_eq (h : ∀ key, lastFor? key es = settings.held? key) :
    appliedAll {} es = settings := by
  refine eq_of_held? fun key => ?_
  rw [held?_appliedAll, h, held?_empty, Option.or_none]

/-! ## Settings in range -/

/-- The time limits lie between a second and an hour, and the server's address is a proper one. -/
structure InRange (settings : Settings) : Prop where
  connectTimeout : ∀ n ∈ settings.connectTimeout, 1 ≤ n ∧ n ≤ 3600
  requestTimeout : ∀ n ∈ settings.requestTimeout, 1 ≤ n ∧ n ≤ 3600
  serverUrl : ∀ url ∈ settings.serverUrl, (Http.validateUrl url).isOk = true

theorem checkTimeout_eq_ok_iff {key : Key} {value : Option Nat} :
    checkTimeout key value = .ok () ↔ ∀ n ∈ value, 1 ≤ n ∧ n ≤ 3600 := by
  cases value with
  | none => simp [checkTimeout]
  | some n => simp [checkTimeout]

theorem checkServerUrl_eq_ok_iff {value : Option String} :
    checkServerUrl value = .ok () ↔ ∀ url ∈ value, (Http.validateUrl url).isOk = true := by
  cases value with
  | none => simp [checkServerUrl]
  | some url => simp [checkServerUrl]

theorem validate_eq_ok_iff : settings.validate = .ok () ↔ settings.InRange := by
  have hiff : settings.validate = .ok () ↔
      checkTimeout .connectTimeout settings.connectTimeout = .ok () ∧
        checkTimeout .requestTimeout settings.requestTimeout = .ok () ∧
        checkServerUrl settings.serverUrl = .ok () := by
    rw [validate]
    cases checkTimeout .connectTimeout settings.connectTimeout with
    | error fault => simp
    | ok _ =>
      cases checkTimeout .requestTimeout settings.requestTimeout with
      | error fault => simp
      | ok _ => simp
  rw [hiff, checkTimeout_eq_ok_iff, checkTimeout_eq_ok_iff, checkServerUrl_eq_ok_iff]
  exact ⟨fun ⟨hconnect, hrequest, hurl⟩ => ⟨hconnect, hrequest, hurl⟩,
    fun h => ⟨h.connectTimeout, h.requestTimeout, h.serverUrl⟩⟩

theorem line_of_checkTimeout {key : Key} {value : Option Nat} {fault : Fault}
    (h : checkTimeout key value = .error fault) : fault.line? = none := by
  cases value with
  | none => cases h
  | some n =>
    rw [checkTimeout] at h
    split at h
    · cases h
    · obtain rfl := Except.error.inj h
      rfl

theorem line_of_checkServerUrl {value : Option String} {fault : Fault}
    (h : checkServerUrl value = .error fault) : fault.line? = none := by
  cases value with
  | none => cases h
  | some url =>
    rw [checkServerUrl] at h
    split at h
    · cases h
    · obtain rfl := Except.error.inj h
      rfl

/-- A value out of range names no line. -/
theorem line_of_validate {fault : Fault} (h : settings.validate = .error fault) :
    fault.line? = none := by
  rw [validate] at h
  split at h
  · rename_i hconnect
    obtain rfl := Except.error.inj h
    exact line_of_checkTimeout hconnect
  · split at h
    · rename_i hrequest
      obtain rfl := Except.error.inj h
      exact line_of_checkTimeout hrequest
    · exact line_of_checkServerUrl h

end FormFetch.Settings
