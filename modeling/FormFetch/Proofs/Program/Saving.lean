import FormFetch.Program.Basic
import FormFetch.Proofs.Session.Course
import FormFetch.Proofs.Vault.Storage

/-!
# What a run saves

A run saves its credentials at its end, if it gets there and if they have changed.

* `exists_edits_perform`: a command edits the store once at most.
* `Begun` says that a run gets to its command, `run_of_begun` and `run_of_not_begun` what comes of
  it.
* `Holds` says what the user's own file decrypts to, and `holds_of_saveDefault` that it is what was
  saved in it.
* `run_saves_changes` is the result.
-/

namespace FormFetch.Program

open FormFetch.Prompt FormFetch.CommandLine

variable {σ : Type} {net : Transport.Network σ}

/-! ## Commands -/

theorem exists_edits_setCredentials (url username : String) (store : Store) (console : Console) :
    ∃ edits : List Store.Edit, edits.length ≤ 1 ∧
      (setCredentials url username store console).2 = store.edited edits := by
  unfold setCredentials
  split
  · exact ⟨[], Nat.zero_le 1, rfl⟩
  · split
    · exact ⟨[], Nat.zero_le 1, rfl⟩
    · rename_i password _
      exact ⟨[.set url username password], Nat.le_refl 1, rfl⟩

/-- A command edits the store once at most. -/
theorem exists_edits_perform (net : Transport.Network σ) (date : String) (args : Arguments)
    (settings : Settings) (store : Store) (s : Surroundings σ) :
    ∃ edits : List Store.Edit, edits.length ≤ 1 ∧
      (perform net date args settings store s).store = store.edited edits := by
  cases hcommand : args.command with
  | fetch url =>
    obtain ⟨edits, hlength, hafter⟩ := Session.Operation.fetch.exists_edits
      (partners net settings.username date) (serverSettings args settings) store url s
    refine ⟨edits, hlength, hafter ▸ ?_⟩
    simp only [perform, hcommand, Session.Operation.run]
  | probe url =>
    obtain ⟨edits, hlength, hafter⟩ := Session.Operation.probe.exists_edits
      (partners net settings.username date) (serverSettings args settings) store url s
    refine ⟨edits, hlength, hafter ▸ ?_⟩
    simp only [perform, hcommand, Session.Operation.run]
  | set url username =>
    simp only [perform, hcommand]
    exact exists_edits_setCredentials url username store s.console
  | clear url =>
    simp only [perform, hcommand]
    exact ⟨[.clear url], Nat.le_refl 1, rfl⟩
  | lookUp url =>
    simp only [perform, hcommand]
    exact ⟨[], Nat.zero_le 1, rfl⟩

/-- A command leaves the store as it is, or moves its revision. -/
theorem store_perform_of_revision {date : String} {args : Arguments} {settings : Settings}
    {store : Store} {s : Surroundings σ}
    (h : (perform net date args settings store s).store.revision = store.revision) :
    (perform net date args settings store s).store = store := by
  obtain ⟨edits, hlength, hafter⟩ := exists_edits_perform net date args settings store s
  rw [hafter] at h ⊢
  exact Store.edited_eq_self (by omega) (congrArg (· % 2 ^ 64) h)

/-! ## Saving -/

/-- The user's own file decrypts to a list of these entries. -/
def Holds (env : Environment) (chance : Vault.Chance) (disk : Files.Disk)
    (entries : List Credentials) : Prop :=
  ∃ path payload text, env.vaultPath? = some path ∧ disk.read path = .ok payload ∧
    Vault.Payload.read (Vault.keyMaterial env chance) payload = .ok text ∧
    Json.Entries.read text = .ok entries

section Saving

variable (env : Environment) (chance : Vault.Chance) (disk : Files.Disk) {loaded store : Store}

variable {env chance disk} in
theorem holds_of_saveDefault {saved : String × Files.Disk}
    (hnonce : chance.nonce.length = Vault.Payload.nonceSize)
    (h : Vault.saveDefault env chance disk store = .ok saved) :
    Holds env chance saved.2 store.entries := by
  unfold Vault.saveDefault Vault.defaultPath at h
  cases hpath : env.vaultPath? with
  | none =>
    simp only [hpath] at h
    cases h
  | some path =>
    simp only [hpath, Vault.save] at h
    cases hwrite : Vault.writePayload disk path
        (Vault.lock store (Vault.keyMaterial env chance) chance.nonce) with
    | error fault =>
      rw [hwrite] at h
      cases h
    | ok written =>
      rw [hwrite] at h
      cases h
      exact ⟨path, _, _, hpath, Vault.read_of_writePayload hwrite,
        Vault.Payload.read_write hnonce, Json.Entries.read_write store.entries⟩

theorem saveChanges_of_eq (h : store.revision = loaded.revision) :
    saveChanges env chance disk loaded store = .ok disk := by
  rw [saveChanges, if_pos h]

theorem saveChanges_of_ne (h : store.revision ≠ loaded.revision) :
    saveChanges env chance disk loaded store =
      (Vault.saveDefault env chance disk store).map (·.2) := by
  rw [saveChanges, if_neg h]

end Saving

/-! ## Runs -/

/-- A run gets to its command, with these settings and this store. -/
structure Begun (c : Circumstances) (inv : Invocation) (args : Arguments) (settings : Settings)
    (loaded : Store) : Prop where
  words : CommandLine.parse inv.words = .ok args
  settings : ∃ found, Settings.load inv.environment inv.disk args.config = .ok found ∧
    found.getD {} = settings
  store : Vault.loadDefault inv.environment c.loading inv.disk = .ok loaded

/-- What the command of a run comes to. -/
def performed (net : Transport.Network σ) (c : Circumstances) (inv : Invocation)
    (args : Arguments) (settings : Settings) (loaded : Store) (s : σ) : Performed σ :=
  perform net c.date args settings loaded { network := s, console := inv.console }

section Runs

variable {c : Circumstances} {inv : Invocation} {args : Arguments} {settings : Settings}
  {loaded : Store}

theorem run_of_begun (h : Begun c inv args settings loaded) (s : σ) :
    run net c inv s = runLoaded net c inv args settings loaded s := by
  obtain ⟨found, hfound, rfl⟩ := h.settings
  simp only [run, h.words, hfound, h.store]

/-- A run that does not get to its command writes nothing, and if it does not fail, the command line
asks for help. -/
theorem run_of_not_begun (h : ¬∃ args settings loaded, Begun c inv args settings loaded) (s : σ) :
    (run net c inv s).1.disk = inv.disk ∧
      ((run net c inv s).1.exitCode = 0 →
        ∃ refusal, CommandLine.parse inv.words = .error refusal ∧ refusal.exitCode = 0) := by
  cases hwords : CommandLine.parse inv.words with
  | error refusal =>
    by_cases hcode : refusal.exitCode = 0
    · simp only [run, hwords, if_pos hcode]
      exact ⟨trivial, fun _ => ⟨refusal, rfl, hcode⟩⟩
    · simp only [run, hwords, if_neg hcode]
      exact ⟨trivial, fun hzero => absurd hzero hcode⟩
  | ok args =>
    cases hsettings : Settings.load inv.environment inv.disk args.config with
    | error fault =>
      simp only [run, hwords, hsettings]
      exact ⟨rfl, fun hzero => by cases hzero⟩
    | ok found =>
      cases hstore : Vault.loadDefault inv.environment c.loading inv.disk with
      | error fault =>
        simp only [run, hwords, hsettings, hstore]
        exact ⟨rfl, fun hzero => by cases hzero⟩
      | ok loaded => exact absurd ⟨args, _, loaded, hwords, ⟨found, hsettings, rfl⟩, hstore⟩ h

variable {s : σ}

theorem run_of_error (h : Begun c inv args settings loaded) {causes : Causes}
    (hresult : (performed net c inv args settings loaded s).result = .error causes) :
    (run net c inv s).1.exitCode = 1 ∧ (run net c inv s).1.disk = inv.disk := by
  unfold performed at hresult
  rw [run_of_begun h]
  simp only [runLoaded, hresult]
  exact ⟨rfl, rfl⟩

theorem run_of_saveChanges_error (h : Begun c inv args settings loaded) {text : String}
    {fault : Vault.StorageFault}
    (hresult : (performed net c inv args settings loaded s).result = .ok text)
    (hsave : saveChanges inv.environment c.saving inv.disk loaded
      (performed net c inv args settings loaded s).store = .error fault) :
    (run net c inv s).1.exitCode = 1 ∧ (run net c inv s).1.disk = inv.disk := by
  unfold performed at hresult hsave
  rw [run_of_begun h]
  simp only [runLoaded, hresult, hsave]
  exact ⟨rfl, rfl⟩

theorem run_of_saveChanges_ok (h : Begun c inv args settings loaded) {text : String}
    {disk : Files.Disk}
    (hresult : (performed net c inv args settings loaded s).result = .ok text)
    (hsave : saveChanges inv.environment c.saving inv.disk loaded
      (performed net c inv args settings loaded s).store = .ok disk) :
    (run net c inv s).1.exitCode = 0 ∧ (run net c inv s).1.disk = disk := by
  unfold performed at hresult hsave
  rw [run_of_begun h]
  simp only [runLoaded, hresult, hsave]
  exact ⟨trivial, trivial⟩

/-- What a run that gets to its command leaves behind. -/
structure Saves (c : Circumstances) (inv : Invocation) (loaded : Store) (done : Performed σ)
    (outcome : Outcome) : Prop where
  edits : ∃ edits : List Store.Edit, edits.length ≤ 1 ∧ done.store = loaded.edited edits
  /-- The run fails with its command or when it saves, and else it ends well. -/
  ending : outcome.exitCode = 0 ↔ (∃ text, done.result = .ok text) ∧
    (done.store.revision ≠ loaded.revision →
      ∃ saved, Vault.saveDefault inv.environment c.saving inv.disk done.store = .ok saved)
  /-- A run that fails writes nothing. -/
  failure : outcome.exitCode ≠ 0 → outcome.disk = inv.disk
  /-- Without a change nothing is written, and nothing is lost by that. -/
  unchanged : outcome.exitCode = 0 → done.store.revision = loaded.revision →
    outcome.disk = inv.disk ∧ done.store.entries = loaded.entries
  /-- A change is written as a whole. -/
  changed : outcome.exitCode = 0 → done.store.revision ≠ loaded.revision →
    (Vault.saveDefault inv.environment c.saving inv.disk done.store).map (·.2) =
        .ok outcome.disk ∧
      Holds inv.environment c.saving outcome.disk done.store.entries

theorem saves_run (hnonce : c.saving.nonce.length = Vault.Payload.nonceSize)
    (h : Begun c inv args settings loaded) (net : Transport.Network σ) (s : σ) :
    Saves c inv loaded (performed net c inv args settings loaded s) (run net c inv s).1 := by
  -- Of what the command comes to only the result and the store matter.
  generalize hdone : performed net c inv args settings loaded s = done
  have hedits : ∃ edits : List Store.Edit, edits.length ≤ 1 ∧
      done.store = loaded.edited edits := by
    rw [← hdone]
    exact exists_edits_perform net c.date args settings loaded _
  have hsame : done.store.revision = loaded.revision → done.store = loaded := by
    rw [← hdone]
    exact store_perform_of_revision
  cases hresult : done.result with
  | error causes =>
    obtain ⟨hcode, hdisk⟩ := run_of_error h (hdone ▸ hresult)
    refine ⟨hedits, ?_, fun _ => hdisk, ?_, ?_⟩ <;> simp [hcode, hresult]
  | ok text =>
    by_cases hrevision : done.store.revision = loaded.revision
    · obtain ⟨hcode, hdisk⟩ := run_of_saveChanges_ok h (hdone ▸ hresult)
        (hdone ▸ saveChanges_of_eq _ _ _ hrevision)
      refine ⟨hedits, ?_, fun _ => hdisk, fun _ _ => ⟨hdisk, congrArg _ (hsame hrevision)⟩,
        fun _ hmoved => absurd hrevision hmoved⟩
      simp [hcode, hresult, hrevision]
    · have hsaving := saveChanges_of_ne inv.environment c.saving inv.disk hrevision
      cases hsave : Vault.saveDefault inv.environment c.saving inv.disk done.store with
      | error fault =>
        rw [hsave] at hsaving
        obtain ⟨hcode, hdisk⟩ := run_of_saveChanges_error h (hdone ▸ hresult) (hdone ▸ hsaving)
        refine ⟨hedits, ?_, fun _ => hdisk, ?_, ?_⟩ <;> simp [hcode, hresult, hrevision, hsave]
      | ok saved =>
        rw [hsave] at hsaving
        obtain ⟨hcode, hdisk⟩ := run_of_saveChanges_ok h (hdone ▸ hresult) (hdone ▸ hsaving)
        refine ⟨hedits, ?_, fun hfailed => absurd hcode hfailed,
          fun _ heq => absurd heq hrevision, fun _ _ => ?_⟩
        · simp [hcode, hresult, hsave]
        · rw [hsave, hdisk]
          exact ⟨rfl, holds_of_saveDefault hnonce hsave⟩

end Runs

/-- A run loses no change of the credentials, and a run that fails writes nothing.

A run that does not get to its command writes nothing.  Every other one edits its store once at
most.  If it fails, it writes nothing; if it ends well, it writes the user's own file exactly if the
revision of the store has moved since it was loaded.  The file then decrypts to a list of exactly the
entries of the store; if it is not written, these are the entries that were loaded.

And among fewer than 2^64 edits of any store, two moments with one revision, counted with 64 bits,
are moments with the same entries. -/
theorem run_saves_changes (net : Transport.Network σ) {c : Circumstances}
    (hnonce : c.saving.nonce.length = Vault.Payload.nonceSize) (inv : Invocation) (s : σ) :
    ((¬∃ args settings loaded, Begun c inv args settings loaded) →
      (run net c inv s).1.disk = inv.disk ∧
        ((run net c inv s).1.exitCode = 0 →
          ∃ refusal, CommandLine.parse inv.words = .error refusal ∧ refusal.exitCode = 0)) ∧
    (∀ args settings loaded, Begun c inv args settings loaded →
      Saves c inv loaded (performed net c inv args settings loaded s) (run net c inv s).1) ∧
    ∀ (store : Store) (edits : List Store.Edit), edits.length < 2 ^ 64 → ∀ i j : Nat,
      (store.edited (edits.take i)).revision % 2 ^ 64 =
          (store.edited (edits.take j)).revision % 2 ^ 64 →
        (store.edited (edits.take i)).entries = (store.edited (edits.take j)).entries := by
  refine ⟨fun hnot => run_of_not_begun hnot s, fun args settings loaded h => saves_run hnonce h net s,
    ?_⟩
  intro store edits hlength i j hrevision
  exact congrArg Store.entries (Store.edited_eq_of_revision hlength hrevision)

/-! ## A run that keeps a password -/

/-- A run with a key from its environment. -/
def plainCircumstances : Circumstances where
  loading := ⟨[], []⟩
  saving := ⟨[], Vault.zeroNonce⟩
  date := ""

/-- A run in an empty home directory, which keeps the password of its standard input. -/
def keeping : Invocation where
  words := ["credentials", "set", Session.formList, "alice"]
  environment := [("HOME", "/home/amy"), ("OPENROSA_MASTER_KEY", "key")]
  disk := {}
  console := ⟨.pipe, Text.Utf8.bytes "s3cret\n", ""⟩

/-- Its arguments. -/
def keepingArguments : Arguments where
  verbose := 0
  quiet := false
  server := none
  config := none
  command := .set Session.formList "alice"

theorem begun_keeping : Begun plainCircumstances keeping keepingArguments {} {} where
  words := by decide +kernel
  settings := ⟨none, by rfl, rfl⟩
  store := by rfl

theorem performed_keeping :
    performed (Transport.Network.unreachable "") plainCircumstances keeping keepingArguments {} {}
        () =
      ⟨.ok s!"Stored credentials for {Session.formList}\n",
        Store.set {} Session.formList "alice" "s3cret",
        { network := (), console := keeping.console }⟩ := by
  have hpassword : keeping.console.readPassword = .ok "s3cret" := by decide +kernel
  simp only [performed, perform, keepingArguments, setCredentials, Session.validate_formList,
    hpassword]

theorem saveDefault_keeping (store : Store) :
    ∃ saved, Vault.saveDefault keeping.environment plainCircumstances.saving keeping.disk store =
      .ok saved :=
  ⟨_, rfl⟩

/-- The run ends well, and its new file decrypts to the one entry. -/
theorem run_saves_changes_keeping :
    plainCircumstances.saving.nonce.length = Vault.Payload.nonceSize ∧
      Begun plainCircumstances keeping keepingArguments {} {} ∧
      (run (Transport.Network.unreachable "") plainCircumstances keeping ()).1.exitCode = 0 ∧
      Holds keeping.environment plainCircumstances.saving
        (run (Transport.Network.unreachable "") plainCircumstances keeping ()).1.disk
        [⟨Session.formList, "alice", "s3cret"⟩] := by
  obtain ⟨-, hsaves, -⟩ := run_saves_changes (Transport.Network.unreachable "")
    (c := plainCircumstances) rfl keeping ()
  have h := hsaves keepingArguments {} {} begun_keeping
  rw [performed_keeping] at h
  have hcode := h.ending.mpr ⟨⟨_, rfl⟩, fun _ => saveDefault_keeping _⟩
  have hentries : (Store.set {} Session.formList "alice" "s3cret").entries =
      [⟨Session.formList, "alice", "s3cret"⟩] := by
    decide +kernel
  have hholds := (h.changed hcode (by decide)).2
  rw [hentries] at hholds
  exact ⟨rfl, begun_keeping, hcode, hholds⟩

end FormFetch.Program
