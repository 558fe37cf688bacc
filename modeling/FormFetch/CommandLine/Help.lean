import FormFetch.CommandLine.Basic

/-!
# Help texts

The texts that explain each level of the command line.  The program itself has a
short text and a long one; every other level has one text.
-/

namespace FormFetch.CommandLine

/-- Lines of two columns, of which the first is as wide as its widest entry. -/
def columns (rows : List (String × String)) : String :=
  let width := (rows.map (·.1.length)).foldl max 0
  String.join <| rows.map fun (left, right) =>
    "  " ++ left ++ String.ofList (List.replicate (width - left.length + 2) ' ') ++ right ++ "\n"

/-- Lines of entries, each with its explanation below. -/
def paragraphs (rows : List (String × String)) : String :=
  "\n".intercalate (rows.map fun (left, right) => "  " ++ left ++ "\n          " ++ right ++ "\n")

/-- What a level does. -/
def Level.about : Level → String
  | program => "Fetch documents from OpenRosa-compatible servers"
  | fetch => "Fetch and parse an XML document"
  | probe => "Send an OpenRosa HEAD probe"
  | credentials => "Manage stored credentials"
  | set => "Store credentials for a server URL; the password is read from stdin"
  | clear => "Remove credentials stored for a server URL"
  | lookUp => "Show which username would be used for a URL"

/-- What the command for help does. -/
def helpAbout : String :=
  "Print this message or the help of the given subcommand(s)"

/-- The long explanation of the program. -/
def programAbout : String :=
  "Fetch documents from OpenRosa-compatible servers.\n\n" ++
    "Downloads form lists, manifests and forms, answering authentication challenges with " ++
    "stored or prompted credentials."

/-- The options that every level has. -/
def options (help : String) : List (String × String) :=
  [("-v, --verbose...", "Increase output verbosity (-v for debug, -vv for trace)"),
    ("-q, --quiet", "Suppress non-error output"),
    ("    --server <URL>", "OpenRosa server URL (overrides `server_url` from the config file)"),
    ("    --config <PATH>",
      "Path to a config file (default: $XDG_CONFIG_HOME/openrosa/config.toml)"),
    ("-h, --help", help)]

/-- The option that only the program itself has. -/
def versionOption : String × String :=
  ("-V, --version", "Print version")

/-- The line that shows how a level is called. -/
def usageLine (level : Level) : String :=
  let values := String.join (level.values.map (" " ++ ·.1))
  let command := if level.hasCommands then " <COMMAND>" else ""
  "Usage: " ++ level.path ++ " [OPTIONS]" ++ command ++ values ++ "\n"

/-- The commands of a level. -/
def commandLines (level : Level) : String :=
  if level.hasCommands then
    "\nCommands:\n" ++
      columns (level.commands.map (fun c => (c.name, c.about)) ++ [(Level.helpName, helpAbout)])
  else ""

/-- The values of a level. -/
def valueLines (level : Level) : String :=
  if level.values.isEmpty then "" else "\nArguments:\n" ++ columns level.values

/-- The parts of a help text between the explanation and the options. -/
def middle (level : Level) : String :=
  "\n\n" ++ usageLine level ++ commandLines level ++ valueLines level ++ "\nOptions:\n"

/-- The help text of a level. -/
def Level.help (level : Level) (long : Bool) : String :=
  match level, long with
  | program, true =>
    programAbout ++ middle program ++
      paragraphs (options "Print help (see a summary with '-h')" ++ [versionOption])
  | program, false =>
    program.about ++ middle program ++
      columns (options "Print help (see more with '--help')" ++ [versionOption])
  | level, _ => level.about ++ middle level ++ columns (options "Print help")

/-- The help text of the command for help. -/
def helpOfHelp (level : Level) : String :=
  helpAbout ++ "\n\nUsage: " ++ level.path ++ " help [COMMAND]...\n\nArguments:\n" ++
    columns [("[COMMAND]...", "Print help for the subcommand(s)")]

/-- The text that names the program and its version. -/
def versionText : String :=
  "openrosa 0.1.0\n"

end FormFetch.CommandLine
