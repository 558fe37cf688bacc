import FormFetch.Http.Request

/-!
# Settings

The defaults that a user may write down for the program, and the reasons for which
a settings file is refused.

* `Settings.validate` checks the values that have a range.
-/

namespace FormFetch

open Text

/-- How much the program says about what it does. -/
inductive Verbosity where
  | default
  | verbose
  | quiet
  | debug
  deriving DecidableEq, Repr

namespace Verbosity

/-- The verbosity of a word. -/
def ofName? (name : String) : Option Verbosity :=
  if name = "default" then some .default
  else if name = "verbose" then some .verbose
  else if name = "quiet" then some .quiet
  else if name = "debug" then some .debug
  else none

/-- The word for a verbosity in reports. -/
def report : Verbosity → String
  | .default => "Default"
  | .verbose => "Verbose"
  | .quiet => "Quiet"
  | .debug => "Debug"

/-- The least weight of what is logged. -/
def level : Verbosity → String
  | .default => "info"
  | .verbose | .debug => "debug"
  | .quiet => "error"

end Verbosity

/-- The settings of a file; each may be left out. -/
structure Settings where
  serverUrl : Option String := none
  /-- The username that is proposed when the user is asked. -/
  username : Option String := none
  connectTimeout : Option Nat := none
  requestTimeout : Option Nat := none
  verbosity : Option Verbosity := none
  deriving DecidableEq, Repr, Inhabited

namespace Settings

/-- The names that settings have in a file. -/
inductive Key where
  | serverUrl
  | username
  | connectTimeout
  | requestTimeout
  | verbosity
  deriving DecidableEq, Repr

/-- The name of a setting. -/
def Key.name : Key → String
  | .serverUrl => "server_url"
  | .username => "username"
  | .connectTimeout => "connect_timeout_secs"
  | .requestTimeout => "request_timeout_secs"
  | .verbosity => "verbosity"

/-- The setting of a name. -/
def Key.ofName? (name : String) : Option Key :=
  if name = "server_url" then some .serverUrl
  else if name = "username" then some .username
  else if name = "connect_timeout_secs" then some .connectTimeout
  else if name = "request_timeout_secs" then some .requestTimeout
  else if name = "verbosity" then some .verbosity
  else none

@[simp] theorem Key.ofName?_name (key : Key) : Key.ofName? key.name = some key := by
  cases key <;> decide

/-- Why a value is refused. -/
inductive ValueFault where
  | notQuoted
  | noInteger
  | number (fault : Number.Fault)
  | negative
  | tooLarge
  deriving DecidableEq, Repr

/-- The report of a refused value. -/
def ValueFault.message : ValueFault → String
  | .notQuoted => "Expected double-quoted string"
  | .noInteger => "Expected integer value"
  | .number fault => fault.message
  | .negative => "Expected non-negative integer"
  | .tooLarge => "Integer value out of range for u64"

/-- Why settings are refused; lines count from 1. -/
inductive Fault where
  | noEquals (line : Nat)
  | unknownKey (name : String) (line : Nat)
  | badValue (key : Key) (line : Nat) (fault : ValueFault)
  | badVerbosity (value : String) (line : Nat)
  | badTimeout (key : Key) (value : Nat)
  | badServerUrl (url : String)
  deriving DecidableEq, Repr

/-- The report of refused settings, the outermost cause first. -/
def Fault.messages : Fault → List String
  | .noEquals line => [s!"Invalid config syntax on line {line}: expected key = value"]
  | .unknownKey name line => [s!"Unknown configuration key: '{name}' on line {line}"]
  | .badValue key line fault => [s!"Invalid `{key.name}` value on line {line}", fault.message]
  | .badVerbosity value line =>
    [s!"Invalid `verbosity` value '{value}' on line {line}",
      "Expected one of: default, verbose, quiet, debug"]
  | .badTimeout key value =>
    [s!"Invalid config value for `{key.name}`: {value}. Expected range: 1..=3600"]
  | .badServerUrl url =>
    [s!"Invalid config value for `server_url`: '{url}'. Expected an absolute http(s) URL"]

/-- A time limit lies between a second and an hour. -/
def checkTimeout (key : Key) (value : Option Nat) : Except Fault Unit :=
  match value with
  | none => .ok ()
  | some seconds =>
    if 1 ≤ seconds ∧ seconds ≤ 3600 then .ok () else .error (.badTimeout key seconds)

/-- The server's address is a proper one. -/
def checkServerUrl (value : Option String) : Except Fault Unit :=
  match value with
  | none => .ok ()
  | some url => if (Http.validateUrl url).isOk then .ok () else .error (.badServerUrl url)

/-- Checks the values that have a range. -/
def validate (settings : Settings) : Except Fault Unit :=
  match checkTimeout .connectTimeout settings.connectTimeout with
  | .error fault => .error fault
  | .ok () =>
    match checkTimeout .requestTimeout settings.requestTimeout with
    | .error fault => .error fault
    | .ok () => checkServerUrl settings.serverUrl

end Settings

end FormFetch
