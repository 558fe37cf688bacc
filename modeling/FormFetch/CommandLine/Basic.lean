/-!
# The command line

What the program can be told to do, and the levels of its commands: the program
itself, its commands, and the commands of those.
-/

namespace FormFetch.CommandLine

/-- What the program does. -/
inductive Command where
  | fetch (url : String)
  | probe (url : String)
  | set (url username : String)
  | clear (url : String)
  | lookUp (url : String)
  deriving DecidableEq, Repr

/-- A command line that was understood. -/
structure Arguments where
  /-- How often more words were asked for; at most 255. -/
  verbose : Nat
  quiet : Bool
  server : Option String
  config : Option String
  command : Command
  deriving DecidableEq, Repr

/-- The levels of commands. -/
inductive Level where
  | program
  | fetch
  | probe
  | credentials
  | set
  | clear
  | lookUp
  deriving DecidableEq, Repr

namespace Level

/-- The name of a level on the command line. -/
def name : Level → String
  | program => "openrosa"
  | fetch => "fetch"
  | probe => "probe"
  | credentials => "credentials"
  | set => "set"
  | clear => "clear"
  | lookUp => "show"

/-- The commands of a level. -/
def commands : Level → List Level
  | program => [fetch, probe, credentials]
  | credentials => [set, clear, lookUp]
  | fetch | probe | set | clear | lookUp => []

/-- The command of a name. -/
def command? (level : Level) (name : String) : Option Level :=
  level.commands.find? (·.name == name)

/-- A level with commands has a command for help as well. -/
def hasCommands (level : Level) : Bool :=
  !level.commands.isEmpty

/-- The name of the command for help. -/
def helpName : String :=
  "help"

/-- The names of the values that a level takes, and what they are. -/
def values : Level → List (String × String)
  | program | credentials => []
  | fetch => [("<URL>", "Document URL")]
  | probe => [("<URL>", "Endpoint URL")]
  | set => [("<URL>", "Server URL prefix"), ("<USERNAME>", "Username")]
  | clear => [("<URL>", "Server URL prefix")]
  | lookUp => [("<URL>", "URL to look up")]

/-- The names that lead to a level. -/
def path : Level → String
  | program => "openrosa"
  | fetch => "openrosa fetch"
  | probe => "openrosa probe"
  | credentials => "openrosa credentials"
  | set => "openrosa credentials set"
  | clear => "openrosa credentials clear"
  | lookUp => "openrosa credentials show"

/-- The command of a level and its values. -/
def toCommand? : Level → List String → Option Command
  | fetch, [url] => some (.fetch url)
  | probe, [url] => some (.probe url)
  | set, [url, username] => some (.set url username)
  | clear, [url] => some (.clear url)
  | lookUp, [url] => some (.lookUp url)
  | _, _ => none

end Level

/-- The options that take a value. -/
inductive Valued where
  | server
  | config
  deriving DecidableEq, Repr

/-- How messages name an option with a value. -/
def Valued.usage : Valued → String
  | .server => "--server <URL>"
  | .config => "--config <PATH>"

/-- The options that take no value. -/
inductive Switch where
  | verbose
  | quiet
  | help
  | version
  deriving DecidableEq, Repr

/-- How messages name an option without a value. -/
def Switch.usage : Switch → String
  | .verbose => "--verbose..."
  | .quiet => "--quiet"
  | .help => "--help"
  | .version => "--version"

end FormFetch.CommandLine
