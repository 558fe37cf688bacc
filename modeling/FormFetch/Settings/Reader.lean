import FormFetch.Environment
import FormFetch.Files.Disk
import FormFetch.Settings.Basic

/-!
# Settings files

A settings file has one setting a line, `key = value`, where a value is a number or
a text between double quotes; what follows a `#` outside quotes is a comment.  Of
several lines for one key the last one counts.

* `withoutComment`, `readText`, `readWhole`: the parts of a line.
* `readLine` is the effect of one line, `read` that of a whole text.
* `load` finds the file and reads it.
-/

namespace FormFetch.Settings

open Text Files

/-! ## Lines -/

/-- A line without its comment; `quotedText` says that a quote is open. -/
def withoutComment (quotedText : Bool) : List Char → List Char
  | [] => []
  | c :: rest =>
    if c = '"' then c :: withoutComment (!quotedText) rest
    else if c = '#' ∧ !quotedText then []
    else c :: withoutComment quotedText rest

/-- The text of a value between double quotes. -/
def readText (value : List Char) : Except ValueFault String :=
  match value with
  | '"' :: rest =>
    if rest.getLast? = some '"' then .ok (String.ofList rest.dropLast) else .error .notQuoted
  | _ => .error .notQuoted

/-- The greatest number that is read at all, of 127 bits. -/
def maxMagnitude : Nat :=
  0x7FFFFFFFFFFFFFFFFFFFFFFFFFFFFFFF

/-- The number of a value. -/
def readWhole (value : List Char) : Except ValueFault Nat :=
  if value.isEmpty then .error .noInteger
  else
    match Number.integer maxMagnitude value with
    | .error fault => .error (.number fault)
    | .ok n =>
      if n < 0 then .error .negative
      else if n.toNat ≤ Number.max64 then .ok n.toNat
      else .error .tooLarge

/-- The settings with one more value, which stands in line `line`. -/
def put (settings : Settings) (line : Nat) (key : Key) (value : List Char) :
    Except Fault Settings :=
  let text (use : String → Except Fault Settings) :=
    match readText value with
    | .ok s => use s
    | .error fault => .error (.badValue key line fault)
  let whole (use : Nat → Settings) :=
    match readWhole value with
    | .ok n => .ok (use n)
    | .error fault => .error (.badValue key line fault)
  match key with
  | .serverUrl => text fun s => .ok { settings with serverUrl := some s }
  | .username => text fun s => .ok { settings with username := some s }
  | .connectTimeout => whole fun n => { settings with connectTimeout := some n }
  | .requestTimeout => whole fun n => { settings with requestTimeout := some n }
  | .verbosity => text fun s =>
    match Verbosity.ofName? s with
    | some v => .ok { settings with verbosity := some v }
    | none => .error (.badVerbosity s line)

/-- The settings after one more line. -/
def readLine (settings : Settings) (line : Nat) (text : List Char) : Except Fault Settings :=
  let content := trim (withoutComment false text)
  if content.isEmpty then .ok settings
  else
    match content.dropWhile (· != '=') with
    | [] => .error (.noEquals line)
    | _ :: value =>
      let name := String.ofList (trim (content.takeWhile (· != '=')))
      match Key.ofName? name with
      | some key => put settings line key (trim value)
      | none => .error (.unknownKey name line)

/-- The settings after more lines, of which the first one has the number `line`. -/
def readLines (settings : Settings) (line : Nat) : List (List Char) → Except Fault Settings
  | [] => .ok settings
  | text :: rest =>
    match readLine settings line text with
    | .error fault => .error fault
    | .ok settings => readLines settings (line + 1) rest

/-- The settings of a text. -/
def read (text : List Char) : Except Fault Settings :=
  match readLines {} 1 (text.splitOn '\n') with
  | .error fault => .error fault
  | .ok settings =>
    match settings.validate with
    | .error fault => .error fault
    | .ok () => .ok settings

/-! ## Files -/

/-- Why settings cannot be loaded. -/
inductive LoadFault where
  | file (path : String) (fault : Files.Fault)
  | encoding (path : String)
  | settings (path : String) (fault : Fault)
  deriving DecidableEq, Repr

/-- The report that a text is not UTF-8. -/
def notUtf8 : String :=
  "stream did not contain valid UTF-8"

/-- The report of a fault, the outermost cause first. -/
def LoadFault.messages : LoadFault → List String
  | .file path fault => [s!"Failed to read config file '{path}'", fault.message]
  | .encoding path => [s!"Failed to read config file '{path}'", notUtf8]
  | .settings path fault => s!"Failed to parse config file '{path}'" :: fault.messages

/-- The settings of a file. -/
def loadFile (disk : Disk) (path : String) : Except LoadFault Settings :=
  match disk.read path with
  | .error fault => .error (.file path fault)
  | .ok bytes =>
    match Utf8.decode bytes with
    | .error _ => .error (.encoding path)
    | .ok text => (read text).mapError (.settings path)

/-- The settings of the named file, or of the user's own file if there is one. -/
def load (env : Environment) (disk : Disk) (explicit : Option String) :
    Except LoadFault (Option Settings) :=
  match explicit with
  | some path => (loadFile disk path).map some
  | none =>
    match env.settingsPath? with
    | some path => if disk.exists? path then (loadFile disk path).map some else .ok none
    | none => .ok none

end FormFetch.Settings
