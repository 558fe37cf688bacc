import FormFetch.Program.Basic
import FormFetch.Proofs.Credentials.Laws
import FormFetch.Proofs.Prompt.Dialogue
import FormFetch.Proofs.Settings.Quotation

/-!
# The name that the settings propose

A run proposes the username of its settings file whenever it asks for credentials and knows no
better one.

* `Settings.text?` is the text of the settings file, and `Settings.username_of_load` the username
  that it proposes.
* `Console.ask_eq_provide_iff` says when a user at the console provides credentials.
* `nameless_answer_iff` is the result: an empty username cancels, unless the settings file
  proposes one.
-/

namespace FormFetch.Settings

open Text Files

/-! ## The settings file -/

/-- The text of a file. -/
def fileText? (disk : Disk) (path : String) : Option (List Char) :=
  (disk.read path).toOption.bind fun bytes => (Utf8.decode bytes).toOption

/-- The path of the named file, or of the user's own file if there is one. -/
def path? (env : Environment) (disk : Disk) (explicit : Option String) : Option String :=
  explicit.or (env.settingsPath?.filter fun path => disk.exists? path)

/-- The text of the settings file. -/
def text? (env : Environment) (disk : Disk) (explicit : Option String) : Option (List Char) :=
  (path? env disk explicit).bind (fileText? disk)

variable {env : Environment} {disk : Disk} {explicit : Option String}

theorem exists_text_of_loadFile {path : String} {settings : Settings}
    (h : loadFile disk path = .ok settings) :
    ∃ text, fileText? disk path = some text ∧ read text = .ok settings := by
  rw [loadFile] at h
  split at h
  · cases h
  · rename_i bytes hbytes
    split at h
    · cases h
    · rename_i text htext
      refine ⟨text, ?_, ?_⟩
      · rw [fileText?, hbytes, Except.toOption, Option.bind_some, htext, Except.toOption]
      · cases hread : read text with
        | error fault =>
          rw [hread] at h
          cases h
        | ok settings' =>
          rw [hread] at h
          obtain rfl := Except.ok.inj h
          rfl

theorem load_eq (env : Environment) (disk : Disk) (explicit : Option String) :
    load env disk explicit =
      (path? env disk explicit).elim (.ok none) fun path => (loadFile disk path).map some := by
  rw [load.eq_def, path?]
  cases explicit with
  | some path => rfl
  | none =>
    cases env.settingsPath? with
    | none => rfl
    | some path =>
      rw [Option.none_or, Option.filter_some]
      cases hexists : disk.exists? path with
      | false => simp [hexists]
      | true => simp [hexists]

theorem exists_text_of_load {settings : Settings}
    (h : load env disk explicit = .ok (some settings)) :
    ∃ text, text? env disk explicit = some text ∧ read text = .ok settings := by
  rw [load_eq] at h
  rw [text?]
  cases hpath : path? env disk explicit with
  | none =>
    rw [hpath] at h
    cases h
  | some path =>
    rw [hpath, Option.elim_some] at h
    cases hfile : loadFile disk path with
    | error fault =>
      rw [hfile] at h
      cases h
    | ok settings' =>
      rw [hfile] at h
      obtain rfl := Option.some.inj (Except.ok.inj h)
      exact exists_text_of_loadFile hfile

theorem text?_of_load (h : load env disk explicit = .ok none) : text? env disk explicit = none := by
  rw [load_eq] at h
  rw [text?]
  cases hpath : path? env disk explicit with
  | none => rfl
  | some path =>
    rw [hpath, Option.elim_some] at h
    cases hfile : loadFile disk path with
    | error fault =>
      rw [hfile] at h
      cases h
    | ok settings' =>
      rw [hfile] at h
      cases h

/-- The username that is proposed stands in the last line for it. -/
theorem username_of_load {settings : Option Settings} (h : load env disk explicit = .ok settings)
    {name : String} :
    (settings.getD {}).username = some name ↔
      ∃ text, text? env disk explicit = some text ∧
        Settles (text.splitOn '\n') .username (inQuotes name.toList) := by
  cases settings with
  | none =>
    refine iff_of_false (fun hname => by cases hname) ?_
    rintro ⟨text, htext, -⟩
    rw [text?_of_load h] at htext
    cases htext
  | some settings =>
    obtain ⟨text, htext, hread⟩ := exists_text_of_load h
    rw [Option.getD_some, username_eq_some_iff hread]
    constructor
    · exact fun hsettles => ⟨text, htext, hsettles⟩
    · rintro ⟨text', htext', hsettles⟩
      obtain rfl := Option.some.inj (htext.symm.trans htext')
      exact hsettles

end FormFetch.Settings

namespace FormFetch.Program

open Text Files Prompt

/-! ## The console -/

/-- Credentials come from a user at a terminal. -/
theorem Console.ask_eq_provide_iff {c c' : Console} {fallback : Option String} {q : Question}
    {name password : String} :
    c.ask fallback q = (.provide name password, c') ↔
      c.source = .terminal ∧
        (Prompt.ask q fallback c.input).decision = .ok (.provide name password) ∧
        { c with
          input := (Prompt.ask q fallback c.input).rest
          written := c.written ++ (Prompt.ask q fallback c.input).output } = c' := by
  obtain ⟨source, input, written⟩ := c
  cases source with
  | pipe => simp [Console.ask]
  | terminal =>
    rcases hask : Prompt.ask q fallback input with ⟨decision, output, rest⟩
    cases decision with
    | error fault => simp [Console.ask, hask]
    | ok decision => simp [Console.ask, hask]

/-- The user of a session is the one at the console. -/
theorem partners_ask_eq_provide_iff {σ : Type} {net : Transport.Network σ}
    {fallback : Option String} {date : String} {q : Question} {s s' : Surroundings σ}
    {name password : String} :
    (partners net fallback date).ask q s = (.provide name password, s') ↔
      ∃ console, s.console.ask fallback q = (.provide name password, console) ∧
        { s with console } = s' := by
  rcases hask : s.console.ask fallback q with ⟨decision, console⟩
  simp only [partners, hask, Prod.mk.injEq]
  constructor
  · rintro ⟨rfl, rfl⟩
    exact ⟨console, ⟨rfl, rfl⟩, rfl⟩
  · rintro ⟨console', ⟨rfl, rfl⟩, rfl⟩
    exact ⟨rfl, rfl⟩

/-! ## Answers without a name -/

/-- The last line for the username in the settings file has an empty text. -/
def NamesNobody (env : Environment) (disk : Disk) (explicit : Option String) : Prop :=
  ∃ text, Settings.text? env disk explicit = some text ∧
    Settings.Settles (text.splitOn '\n') .username (Settings.inQuotes [])

variable {env : Environment} {disk : Disk} {explicit : Option String} {settings : Option Settings}

theorem exists_answer_iff (h : Settings.load env disk explicit = .ok settings) {store : Store}
    {serverUrl url : String} {status : Nat} {input : List UInt8} :
    (∃ password, (ask (question store serverUrl url status) (settings.getD {}).username
        input).decision = .ok (.provide "" password)) ↔
      NamesNobody env disk explicit ∧ (question store serverUrl url status).prefill = none ∧
        IsNameless input := by
  rw [exists_provide_empty_iff, prefill_or_eq_empty_iff, Settings.username_of_load h, and_assoc,
    and_left_comm]
  rfl

/-- An empty name always cancels, exactly if the settings file does not propose one. -/
theorem provides_no_empty_iff (h : Settings.load env disk explicit = .ok settings) :
    (∀ store serverUrl url status input name password,
      (ask (question store serverUrl url status) (settings.getD {}).username
        input).decision = .ok (.provide name password) → name ≠ "") ↔
      ¬NamesNobody env disk explicit := by
  constructor
  · intro hall hnobody
    have hlast : readLine [] = (.ok "", []) := readLine_eq_ok_iff.mpr (by decide)
    have hnameless : IsNameless [0x0A] :=
      ⟨"\n", [], "", readLine_eq_ok_iff.mpr (by decide), by decide, by rw [hlast]⟩
    have hnone : (question {} "" "" 401).prefill = none := by
      decide
    obtain ⟨password, hanswer⟩ := (exists_answer_iff h).mpr ⟨hnobody, hnone, hnameless⟩
    exact hall _ _ _ _ _ _ _ hanswer rfl
  · rintro hsomebody store serverUrl url status input name password hanswer rfl
    exact hsomebody ((exists_answer_iff h).mp ⟨password, hanswer⟩).1

/-- A user who leaves the username empty cancels, unless the settings file proposes an empty one and
none is known for the address: then, and only then, the dialogue provides an empty username, and
the request is repeated with it and the password of the next line, which are kept in the store. -/
theorem nameless_answer_iff (h : Settings.load env disk explicit = .ok settings) :
    ((∀ store serverUrl url status input name password,
      (ask (question store serverUrl url status) (settings.getD {}).username
        input).decision = .ok (.provide name password) → name ≠ "") ↔
      ¬NamesNobody env disk explicit) ∧
      (∀ store serverUrl url status input,
        (∃ password, (ask (question store serverUrl url status) (settings.getD {}).username
          input).decision = .ok (.provide "" password)) ↔
          NamesNobody env disk explicit ∧ (question store serverUrl url status).prefill = none ∧
            IsNameless input) ∧
      ∀ {σ : Type} (net : Transport.Network σ) date store serverUrl url status
        (s : Surroundings σ),
        (∃ password s', ({ store } : Handler).onChallenge
          (partners net (settings.getD {}).username date).ask serverUrl url status s =
            (.retry, ⟨.retrying,
              store.set (question store serverUrl url status).targetUrl "" password⟩, s')) ↔
          s.console.source = .terminal ∧ NamesNobody env disk explicit ∧
            (question store serverUrl url status).prefill = none ∧
            IsNameless s.console.input := by
  refine ⟨provides_no_empty_iff h,
    fun store serverUrl url status input => exists_answer_iff h,
    fun net date store serverUrl url status s => ?_⟩
  rw [← exists_answer_iff h]
  constructor
  · rintro ⟨password, s', hretry⟩
    obtain ⟨name, password', hanswer, hhandler⟩ := onChallenge_eq_retry_iff.mp hretry
    obtain ⟨rfl, rfl⟩ := Store.set_inj (Handler.mk.inj hhandler).2
    obtain ⟨console, hconsole, -⟩ := partners_ask_eq_provide_iff.mp hanswer
    obtain ⟨hterminal, hdecision, -⟩ := Console.ask_eq_provide_iff.mp hconsole
    exact ⟨hterminal, _, hdecision⟩
  · rintro ⟨hterminal, password, hdecision⟩
    have hconsole := Console.ask_eq_provide_iff.mpr ⟨hterminal, hdecision, rfl⟩
    exact ⟨password, _, onChallenge_eq_retry_iff.mpr
      ⟨"", password, partners_ask_eq_provide_iff.mpr ⟨_, hconsole, rfl⟩, rfl⟩⟩

/-- A disk with a settings file. -/
def diskWith (text : String) : Disk where
  entries := [(⟨false, ["config.toml"]⟩, .file ⟨Utf8.bytes text, 0o644⟩)]

theorem load_diskWith {text : String} {settings : Settings}
    (h : Settings.read text.toList = .ok settings) :
    Settings.load [] (diskWith text) (some "config.toml") = .ok (some settings) := by
  have hread : (diskWith text).read "config.toml" = .ok (Utf8.bytes text) := by
    rfl
  have hdecode : Utf8.decode (Utf8.bytes text) = .ok text.toList := Utf8.decode_encode text.toList
  rw [Settings.load, Settings.loadFile, hread]
  simp only [hdecode, h]
  rfl

/-- With a name in the last line for it no dialogue provides an empty one. -/
theorem nameless_answer_amy :
    Settings.load [] (diskWith "username = \"\"\nusername = \"amy\"") (some "config.toml") =
        .ok (some { username := some "amy" }) ∧
      ¬NamesNobody [] (diskWith "username = \"\"\nusername = \"amy\"") (some "config.toml") := by
  have hload : Settings.load [] (diskWith "username = \"\"\nusername = \"amy\"")
      (some "config.toml") = .ok (some { username := some "amy" }) :=
    load_diskWith (by decide)
  refine ⟨hload, (nameless_answer_iff hload).1.mp ?_⟩
  rintro store serverUrl url status input name password hanswer rfl
  obtain ⟨hproposed, -⟩ := exists_provide_empty_iff.mp ⟨password, hanswer⟩
  obtain ⟨-, hamy⟩ := prefill_or_eq_empty_iff.mp hproposed
  exact absurd hamy (by decide)

/-- An empty name in the settings file is accepted, proposed, provided and kept. -/
theorem empty_name_kept :
    Settings.load [] (diskWith "username = \"\"") (some "config.toml") =
        .ok (some { username := some "" }) ∧
      (ask (question {} "" "http://forms.example" 401) (some "") (Utf8.bytes "\npw\n")).decision =
        .ok (.provide "" "pw") ∧
      ∃ console, ({ store := {} } : Handler).onChallenge (fun q c => Console.ask (some "") q c) ""
        "http://forms.example" 401 ⟨.terminal, Utf8.bytes "\npw\n", ""⟩ =
          (.retry, ⟨.retrying, ({} : Store).set "http://forms.example" "" "pw"⟩, console) := by
  have hname : readLine (Utf8.bytes "\npw\n") = (.ok "\n", Utf8.bytes "pw\n") :=
    readLine_eq_ok_iff.mpr (by decide)
  have hpassword : readLine (Utf8.bytes "pw\n") = (.ok "pw\n", []) :=
    readLine_eq_ok_iff.mpr (by decide)
  have hanswer : (ask (question {} "" "http://forms.example" 401) (some "")
      (Utf8.bytes "\npw\n")).decision = .ok (.provide "" "pw") :=
    ask_eq_provide_iff.mpr ⟨"\n", _, "pw\n", hname, by decide, by rw [hpassword], by decide⟩
  have htarget : (question {} "" "http://forms.example" 401).targetUrl =
      "http://forms.example" := by
    decide
  refine ⟨load_diskWith (by decide), hanswer, _, onChallenge_eq_retry_iff.mpr ⟨"", "pw",
    Console.ask_eq_provide_iff.mpr ⟨rfl, hanswer, rfl⟩, ?_⟩⟩
  rw [htarget]

end FormFetch.Program
