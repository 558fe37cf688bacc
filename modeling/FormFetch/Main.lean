import FormFetch.Http.Date
import FormFetch.Program.Basic
import Std.Time.DateTime.Timestamp

/-!
# The command line program

Gathers what a run starts with, carries it out, and does what its outcome says.  The
only network it has is one in which no server can be reached; the credentials and the
settings are those of the user.
-/

namespace FormFetch.Main

open FormFetch.Program

/-- The variables that a run looks at. -/
def variableNames : List String :=
  ["XDG_CONFIG_HOME", "HOME", "APPDATA", "OPENROSA_MASTER_KEY"]

/-- Those variables that are set. -/
def environment : IO Environment :=
  variableNames.filterMapM fun name => do
    return (← IO.getEnv name).map fun value => (name, value)

/-- What a path leads to; only a directory can be opened and not read. -/
def entryAt? (path : String) : IO (Option Files.Entry) := do
  try
    let content ← IO.FS.readBinFile path
    return some (.file ⟨content.toList, Files.ownerOnly⟩)
  catch
    | .inappropriateType .. => return some .directory
    | _ => return none

/-- The path of a place. -/
def pathOf (place : Files.Place) : String :=
  (if place.fromRoot then "/" else "") ++ "/".intercalate place.names

/-- The files and directories that a path leads through. -/
def entriesAlong (path : String) : IO (List (Files.Place × Files.Entry)) :=
  let place := Files.Place.of path
  (List.range place.names.length).filterMapM fun n => do
    let above : Files.Place := { place with names := place.names.take (n + 1) }
    return (← entryAt? (pathOf above)).map fun entry => (above, entry)

/-- The part of the file system that a run looks at. -/
def disk (env : Environment) (args : Option CommandLine.Arguments) : IO Files.Disk := do
  let paths := [args.bind (·.config), env.settingsPath?, env.vaultPath?].filterMap id
  return ⟨(← paths.mapM entriesAlong).flatten⟩

/-- All that is left to read. -/
partial def readAll (stream : IO.FS.Stream) (before : ByteArray) : IO ByteArray := do
  let more ← stream.read 65536
  if more.isEmpty then return before else readAll stream (before ++ more)

/-- What the user has to say: only a command that keeps a password reads anything. -/
def console (args : Option CommandLine.Arguments) : IO Console := do
  let stream ← IO.getStdin
  let source := if ← stream.isTty then Source.terminal else .pipe
  let input ← match args, source with
    | some { command := .set .., .. }, .terminal => pure (Text.Utf8.bytes (← stream.getLine))
    | some { command := .set .., .. }, .pipe => pure (← readAll stream ByteArray.empty).toList
    | _, _ => pure []
  return { source, input }

/-- Bytes from the system's source of chance. -/
def randomBytes (n : Nat) : IO (List UInt8) := do
  return (← IO.getRandomBytes n.toUSize).toList

/-- What chance and the clock bring. -/
def circumstances : IO Circumstances := do
  let moment ← Std.Time.Timestamp.now
  return {
    loading := ⟨← randomBytes 32, ← randomBytes 24⟩
    saving := ⟨← randomBytes 32, ← randomBytes 24⟩
    date := Http.Date.text moment.toSecondsSinceUnixEpoch.val.toNat }

/-- Writes the credentials of a run to the file system. -/
def saveCredentials (env : Environment) (disk : Files.Disk) : IO Unit := do
  match env.vaultFolder?, env.vaultPath? with
  | some folder, some path =>
    match disk.read path with
    | .ok content =>
      IO.FS.createDirAll folder
      IO.FS.writeBinFile path ⟨content.toArray⟩
      IO.setAccessRights path { user := { read := true, write := true } }
    | .error _ => return
  | _, _ => return

/-- Whether a run changed the credentials. -/
def changedCredentials (env : Environment) (before after : Files.Disk) : Bool :=
  match env.vaultPath? with
  | some path => (before.read path).toOption != (after.read path).toOption
  | none => false

end FormFetch.Main

/-- Carries out one run. -/
def main (words : List String) : IO UInt32 := do
  let env ← FormFetch.Main.environment
  let args := (FormFetch.CommandLine.parse words).toOption
  let disk ← FormFetch.Main.disk env args
  let invocation := ⟨words, env, disk, ← FormFetch.Main.console args⟩
  let random ← FormFetch.Main.randomBytes FormFetch.Auth.Digest.nonceSize
  let nonce := FormFetch.Auth.Digest.clientNonce random
  let (outcome, _) := FormFetch.Program.run (.unreachable nonce)
    (← FormFetch.Main.circumstances) invocation ()
  if FormFetch.Main.changedCredentials env disk outcome.disk then
    FormFetch.Main.saveCredentials env outcome.disk
  IO.print outcome.out
  IO.eprint outcome.err
  return outcome.exitCode.toUInt32
