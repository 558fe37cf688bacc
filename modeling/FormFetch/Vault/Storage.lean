import FormFetch.Bytes.Hex
import FormFetch.Credentials.Store
import FormFetch.Environment
import FormFetch.Files.Disk
import FormFetch.Json.Entries
import FormFetch.Vault.Payload

/-!
# Stores in files

A store is kept as one encrypted file, which only its owner may read.

* `lock` and `unlock` turn a store into a payload and back, `save` and `load` go
  through a file, `saveDefault` and `loadDefault` through the user's own file.
-/

namespace FormFetch.Vault

open Files

/-- Why a store cannot be saved or loaded. -/
inductive StorageFault where
  /-- The environment names no directory. -/
  | noFolder
  | file (fault : Files.Fault)
  | entries (report : Json.Report)
  | payload (fault : PayloadFault)
  deriving DecidableEq, Repr

/-- The report of a fault. -/
def StorageFault.message : StorageFault → String
  | .noFolder => "unable to determine config directory (set XDG_CONFIG_HOME or HOME)"
  | .file fault => fault.message
  | .entries report => report.message
  | .payload .invalid => "persisted credential payload is invalid"
  | .payload .undecryptable => "failed to decrypt persisted credentials"

/-- What saving takes from chance: the material of a key that the user does not give, and the nonce
of one payload. -/
structure Chance where
  keyBytes : List UInt8
  nonce : List UInt8

/-- The user's key material, or new material. -/
def keyMaterial (env : Environment) (chance : Chance) : String :=
  env.masterKey?.getD (Bytes.hex chance.keyBytes)

/-- The payload of a store. -/
def lock (store : Store) (material : String) (nonce : List UInt8) : List UInt8 :=
  Payload.write material nonce (Json.Entries.write store.entries)

/-- The store of a payload. -/
def unlock (material : String) (payload : List UInt8) : Except StorageFault Store :=
  match Payload.read material payload with
  | .error fault => .error (.payload fault)
  | .ok text =>
    match Json.Entries.read text with
    | .error report => .error (.entries report)
    | .ok entries => .ok (Store.ofEntries entries)

/-- Writes a payload where only its owner may read it. -/
def writePayload (disk : Disk) (path : String) (payload : List UInt8) : Except Files.Fault Disk :=
  match disk.makeParents path with
  | .error fault => .error fault
  | .ok disk =>
    match disk.write path payload with
    | .error fault => .error fault
    | .ok disk => disk.setMode path ownerOnly

/-- Saves a store in a file. -/
def save (disk : Disk) (path : String) (store : Store) (material : String) (nonce : List UInt8) :
    Except StorageFault Disk :=
  (writePayload disk path (lock store material nonce)).mapError .file

/-- Loads the store of a file. -/
def load (disk : Disk) (path material : String) : Except StorageFault Store :=
  match disk.read path with
  | .error fault => .error (.file fault)
  | .ok payload => unlock material payload

/-- The user's own file. -/
def defaultPath (env : Environment) : Except StorageFault String :=
  match env.vaultPath? with
  | some path => .ok path
  | none => .error .noFolder

/-- Saves a store in the user's own file: the path and the files afterwards. -/
def saveDefault (env : Environment) (chance : Chance) (disk : Disk) (store : Store) :
    Except StorageFault (String × Disk) :=
  match defaultPath env with
  | .error fault => .error fault
  | .ok path =>
    (save disk path store (keyMaterial env chance) chance.nonce).map fun disk => (path, disk)

/-- Loads the store of the user's own file; without such a file it is empty. -/
def loadDefault (env : Environment) (chance : Chance) (disk : Disk) :
    Except StorageFault Store :=
  match defaultPath env with
  | .error fault => .error fault
  | .ok path =>
    if disk.exists? path then load disk path (keyMaterial env chance) else .ok {}

end FormFetch.Vault
