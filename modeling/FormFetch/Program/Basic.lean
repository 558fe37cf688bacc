import FormFetch.CommandLine.Parser
import FormFetch.Program.Console
import FormFetch.Session.Fetch
import FormFetch.Settings.Reader
import FormFetch.Transport.Client
import FormFetch.Vault.Storage

/-!
# The program

One run: the command line is read, then the settings and the stored credentials; the
command is carried out; and if it changed the credentials, they are saved.  A run
that fails saves nothing.

* `run` is a whole run, `perform` the command in it.
* `Outcome` is all that a run leaves behind.
-/

namespace FormFetch.Program

open FormFetch.Text FormFetch.Http FormFetch.Prompt FormFetch.CommandLine

/-- What a run starts with. -/
structure Invocation where
  /-- The command line, without the program's name. -/
  words : List String
  environment : Environment
  disk : Files.Disk
  console : Console

/-- What a run leaves behind. -/
structure Outcome where
  exitCode : Nat
  out : String
  err : String
  disk : Files.Disk

/-- What a run takes from chance and from the clock. -/
structure Circumstances where
  loading : Vault.Chance
  saving : Vault.Chance
  date : String

/-! ## Failures -/

/-- Why a run fails, the outermost cause first. -/
abbrev Causes := List String

/-- A cause of several lines, of which those after the first are set in. -/
def indented (first next : String) (text : String) : String :=
  first ++ ("\n" ++ next).intercalate ((text.splitOn "\n"))

/-- A number, set in to five places. -/
def numbered (n : Nat) : String :=
  let digits := toString n
  String.ofList (List.replicate (5 - digits.length) ' ') ++ digits ++ ": "

/-- The causes behind a failure, numbered if there are several. -/
def causeLines (causes : Causes) : List String :=
  match causes with
  | [cause] => [indented "    " "    " cause]
  | causes => causes.zipIdx.map fun (cause, n) => indented (numbered n) "       " cause

/-- The report of a failure. -/
def failureText (causes : Causes) : String :=
  match causes with
  | [] => "Error: \n"
  | [message] => "Error: " ++ message ++ "\n"
  | message :: behind =>
    "Error: " ++ message ++ "\n\nCaused by:\n" ++ "\n".intercalate (causeLines behind) ++ "\n"

/-! ## Commands -/

/-- What a session deals with during a run; `σ` belongs to the network. -/
structure Surroundings (σ : Type) where
  network : σ
  memory : Transport.Memory := {}
  console : Console

/-- The partners of a session: the client, the user at the console, and the clock. -/
def partners {σ : Type} (net : Transport.Network σ) (fallback : Option String) (date : String) :
    Partners (Surroundings σ) where
  execute r s :=
    let (result, memory, network) := Transport.execute net r s.memory s.network
    (result.map some, { s with memory, network })
  ask q s :=
    let (decision, console) := s.console.ask fallback q
    (decision, { s with console })
  date s := (date, s)

/-- The settings of a session: the command line goes before the settings file. -/
def serverSettings (args : Arguments) (settings : Settings) : ServerSettings where
  serverUrl := (args.server.or settings.serverUrl).getD ""
  timeout := settings.requestTimeout.getD requestSeconds * 1000

/-- What a command comes to: what it prints or why it fails, the store, and the surroundings. -/
structure Performed (σ : Type) where
  result : Except Causes String
  store : Store
  state : Surroundings σ

/-- A yes or a no. -/
def yesNo (b : Bool) : String :=
  if b then "yes" else "no"

/-- The line for a child of a list document: its local name and the name that it gives. -/
def childLine (e : Markup.Element) : String :=
  let label := (((e.child? "name").or (e.child? "formID")).map (·.text)).getD ""
  "  " ++ e.localName ++ " " ++ label ++ "\n"

/-- What is printed for a document. -/
def documentText (d : Markup.Document) (f : Fetched) : String :=
  let root := d.root
  s!"{root.name} ({root.elements.length} child elements) status={f.code} " ++
    s!"openrosa={yesNo f.openRosa}\n" ++ String.join (root.elements.map childLine)

/-- What a fetch prints, or why it fails. -/
def fetchedText (f : Fetched) : Except Causes String :=
  match f.outcome with
  | .ok d => .ok (documentText d f)
  | .error message => .error [message]

/-- What is printed for a probe. -/
def probedText (p : Probed) : String :=
  let limit := match p.acceptedLength with
    | some n => s!"accept-content-length={n}\n"
    | none => ""
  let location := match p.location with
    | some url => s!"location={url}\n"
    | none => ""
  s!"status={p.status}\nopenrosa={p.openRosa}\n" ++ limit ++ location

/-- The causes of a failed request. -/
def requestCauses (failure : Failure) : Causes :=
  failure.message :: failure.causes

/-- What a probe of `url` prints, or why it fails. -/
def probeText (url : String) (result : Except Failure Probed) : Except Causes String :=
  match result with
  | .ok p => .ok (probedText p)
  | .error failure => .error (s!"HEAD probe failed for {url}" :: requestCauses failure)

/-- Keeps credentials whose password the user gives. -/
def setCredentials (url username : String) (store : Store) (c : Console) :
    Except Causes String × Store :=
  match validateUrl url with
  | .error failure =>
    (.error (s!"Cannot store credentials for '{url}'" :: requestCauses failure), store)
  | .ok _ =>
    match c.readPassword with
    | .error fault => (.error [fault.message], store)
    | .ok password => (.ok s!"Stored credentials for {url}\n", store.set url username password)

/-- What is printed when credentials are cleared. -/
def clearedText (url : String) (store : Store) : String :=
  if store.contains url then s!"Cleared credentials for {url}\n"
  else s!"No credentials stored for {url}\n"

/-- What is printed about the credentials for an address. -/
def lookedUpText (url : String) (store : Store) : String :=
  let found := store.get url
  if found.isPresent then s!"{found.username} (stored under {found.serverUrl})\n"
  else s!"No credentials for {url}\n"

/-- Carries out a command. -/
def perform {σ : Type} (net : Transport.Network σ) (date : String) (args : Arguments)
    (settings : Settings) (store : Store) (s : Surroundings σ) : Performed σ :=
  let p := partners net settings.username date
  let server := serverSettings args settings
  match args.command with
  | .fetch url =>
    let (fetched, store, s) := Session.fetch p server store url s
    ⟨fetchedText fetched, store, s⟩
  | .probe url =>
    let (result, store, s) := Session.probe p server store url s
    ⟨probeText url result, store, s⟩
  | .set url username =>
    let (result, store) := setCredentials url username store s.console
    ⟨result, store, s⟩
  | .clear url => ⟨.ok (clearedText url store), store.clear url, s⟩
  | .lookUp url => ⟨.ok (lookedUpText url store), store, s⟩

/-! ## Runs -/

/-- The outcome of a run that fails. -/
def failed (disk : Files.Disk) (out written : String) (causes : Causes) : Outcome :=
  ⟨1, out, written ++ failureText causes, disk⟩

/-- Saves a store if it has changed since it was loaded. -/
def saveChanges (env : Environment) (chance : Vault.Chance) (disk : Files.Disk)
    (loaded store : Store) : Except Vault.StorageFault Files.Disk :=
  if store.revision = loaded.revision then .ok disk
  else (Vault.saveDefault env chance disk store).map (·.2)

/-- A run with its settings and its store. -/
def runLoaded {σ : Type} (net : Transport.Network σ) (c : Circumstances) (inv : Invocation)
    (args : Arguments) (settings : Settings) (store : Store) (s : σ) : Outcome × σ :=
  let performed := perform net c.date args settings store { network := s, console := inv.console }
  let written := performed.state.console.written
  let outcome := match performed.result with
    | .error causes => failed inv.disk "" written causes
    | .ok out =>
      match saveChanges inv.environment c.saving inv.disk store performed.store with
      | .error fault =>
        failed inv.disk out written ["Failed to save stored credentials", fault.message]
      | .ok disk => ⟨0, out, written, disk⟩
  (outcome, performed.state.network)

/-- One run of the program. -/
def run {σ : Type} (net : Transport.Network σ) (c : Circumstances) (inv : Invocation) (s : σ) :
    Outcome × σ :=
  match CommandLine.parse inv.words with
  | .error refusal =>
    if refusal.exitCode = 0 then (⟨0, refusal.text, "", inv.disk⟩, s)
    else (⟨refusal.exitCode, "", refusal.text, inv.disk⟩, s)
  | .ok args =>
    match Settings.load inv.environment inv.disk args.config with
    | .error fault => (failed inv.disk "" "" fault.messages, s)
    | .ok settings =>
      match Vault.loadDefault inv.environment c.loading inv.disk with
      | .error fault =>
        (failed inv.disk "" "" ["Failed to load stored credentials", fault.message], s)
      | .ok store => runLoaded net c inv args (settings.getD {}) store s

end FormFetch.Program
