import FormFetch.Files.Path
import FormFetch.Text.Blank

/-!
# Environment variables

The variables that a program is started with, and the directories and files that
they point to.

* `settingsPath?` and `vaultPath?` are the two places under the configuration
  directory; they differ in which values they pass over.
-/

namespace FormFetch

open Text Files

/-- Variables and their values. -/
abbrev Environment := List (String × String)

namespace Environment

/-- The value of a variable, unless it is the empty text. -/
def nonEmpty? (env : Environment) (name : String) : Option String :=
  (env.lookup name).filter (· ≠ "")

/-- The value of a variable, unless it is blank. -/
def nonBlank? (env : Environment) (name : String) : Option String :=
  (env.lookup name).filter fun value => !blank value

/-- The name of the directory for everything that the program keeps. -/
def folder : String :=
  "openrosa"

/-- The settings file: under `XDG_CONFIG_HOME`, else under `HOME`. -/
def settingsPath? (env : Environment) : Option String :=
  match env.nonEmpty? "XDG_CONFIG_HOME", env.nonEmpty? "HOME" with
  | some base, _ => some (join (join base folder) "config.toml")
  | none, some home => some (join (join (join home ".config") folder) "config.toml")
  | none, none => none

/-- The directory for credentials: under `XDG_CONFIG_HOME`, else under `HOME`, else under
`APPDATA`. -/
def vaultFolder? (env : Environment) : Option String :=
  match env.nonBlank? "XDG_CONFIG_HOME", env.nonBlank? "HOME", env.nonBlank? "APPDATA" with
  | some base, _, _ => some (join base folder)
  | none, some home, _ => some (join (join home ".config") folder)
  | none, none, some data => some (join data folder)
  | none, none, none => none

/-- The file that credentials are kept in. -/
def vaultPath? (env : Environment) : Option String :=
  env.vaultFolder?.map fun folder => join folder "credentials.enc"

/-- The key material that the user gives, without blank ends. -/
def masterKey? (env : Environment) : Option String :=
  ((env.lookup "OPENROSA_MASTER_KEY").map trimmed).filter (· ≠ "")

end Environment

end FormFetch
