import FormFetch.CommandLine.Help

/-!
# Command lines that run nothing

Why a command line does not lead to a command: it asks for help or for the version,
or it is not understood.
-/

namespace FormFetch.CommandLine

/-- Why a command line does not lead to a command. -/
inductive Refusal where
  /-- Help was asked for. -/
  | help (text : String)
  /-- The version was asked for. -/
  | version
  /-- Nothing was asked for. -/
  | nothing (level : Level)
  | missingCommand (level : Level)
  | missingValues (names : List String)
  | unknownOption (text : String)
  | unknownCommand (name : String)
  | conflict (first second : Switch)
  | repeatedSwitch (option : Switch)
  | repeatedValue (option : Valued)
  | noValue (option : Valued)
  | unneededValue (option : Switch) (value : String)
  deriving DecidableEq, Repr

namespace Refusal

/-- What is wrong, in one line. -/
def complaint : Refusal → Option String
  | help _ | version | nothing _ => none
  | missingCommand level =>
    some s!"'{level.path}' requires a subcommand but one was not provided"
  | missingValues names =>
    some ("the following required arguments were not provided:" ++
      String.join (names.map ("\n  " ++ ·)))
  | unknownOption text => some s!"unexpected argument '{text}' found"
  | unknownCommand name => some s!"unrecognized subcommand '{name}'"
  | conflict first second =>
    some s!"the argument '{first.usage}' cannot be used with '{second.usage}'"
  | repeatedSwitch option => some s!"the argument '{option.usage}' cannot be used multiple times"
  | repeatedValue option => some s!"the argument '{option.usage}' cannot be used multiple times"
  | noValue option => some s!"a value is required for '{option.usage}' but none was supplied"
  | unneededValue option value =>
    some s!"unexpected value '{value}' for '{option.usage}' found; no more were expected"

/-- The exit code: only a text that was asked for is a success. -/
def exitCode : Refusal → Nat
  | help _ | version => 0
  | _ => 2

/-- What is written for a refusal. -/
def text (r : Refusal) : String :=
  match r, r.complaint with
  | help text, _ => text
  | version, _ => versionText
  | nothing level, _ => level.help false
  | _, some complaint => "error: " ++ complaint ++ "\n\nFor more information, try '--help'.\n"
  | _, none => ""

end Refusal

end FormFetch.CommandLine
