import FormFetch.Files.Path

/-!
# Files

Files and directories by their place, and the reasons for which one cannot be read
or written.

* `read_of_lookup`: what a look-up finds is what is read.
-/

namespace FormFetch.Files

/-- Why a file cannot be read or written. -/
inductive Fault where
  | notFound
  | taken
  | notDirectory
  | isDirectory
  deriving DecidableEq, Repr

/-- The report of a fault. -/
def Fault.message : Fault → String
  | .notFound => "No such file or directory (os error 2)"
  | .taken => "File exists (os error 17)"
  | .notDirectory => "Not a directory (os error 20)"
  | .isDirectory => "Is a directory (os error 21)"

/-- The bytes of a file and who may use it. -/
structure File where
  content : List UInt8
  /-- The permission bits. -/
  mode : Nat := 0o644
  deriving DecidableEq, Repr

/-- The permission bits of a file that only its owner may read and write. -/
def ownerOnly : Nat :=
  0o600

/-- What is found at a place. -/
inductive Entry where
  | directory
  | file (f : File)
  deriving DecidableEq, Repr

/-- Files and directories by their place. -/
structure Disk where
  entries : List (Place × Entry) := []

namespace Disk

/-- The entry at a place; the root and the working directory are always there. -/
def entry? (disk : Disk) (place : Place) : Option Entry :=
  if place.names = [] then some .directory else disk.entries.lookup place

/-- The entry that the names lead to, starting behind the names `before`. -/
def walk (disk : Disk) (fromRoot : Bool) (before : List String) :
    List String → Except Fault Entry
  | [] => .ok .directory
  | name :: rest =>
    match disk.entry? ⟨fromRoot, before ++ [name]⟩, rest with
    | none, _ => .error .notFound
    | some e, [] => .ok e
    | some .directory, _ => walk disk fromRoot (before ++ [name]) rest
    | some (.file _), _ => .error .notDirectory

/-- The entry that a path leads to. -/
def lookup (disk : Disk) (path : String) : Except Fault Entry :=
  if path = "" then .error .notFound
  else walk disk (Place.of path).fromRoot [] (Place.of path).names

/-- Whether a path leads anywhere. -/
def exists? (disk : Disk) (path : String) : Bool :=
  (disk.lookup path).isOk

/-- The content of a file. -/
def read (disk : Disk) (path : String) : Except Fault (List UInt8) :=
  match disk.lookup path with
  | .error fault => .error fault
  | .ok .directory => .error .isDirectory
  | .ok (.file f) => .ok f.content

/-- The entries with one more, in place of another at its place. -/
def put (disk : Disk) (place : Place) (entry : Entry) : Disk where
  entries := (place, entry) :: disk.entries.filter (·.1 != place)

/-- Makes the directories that the names lead through, starting behind the names `before`. -/
def makeFrom (disk : Disk) (fromRoot : Bool) (before : List String) :
    List String → Except Fault Disk
  | [] => .ok disk
  | name :: rest =>
    let place : Place := ⟨fromRoot, before ++ [name]⟩
    match disk.entry? place with
    | none => makeFrom (disk.put place .directory) fromRoot (before ++ [name]) rest
    | some .directory => makeFrom disk fromRoot (before ++ [name]) rest
    | some (.file _) => .error (if rest = [] then .taken else .notDirectory)

/-- Makes the directories above a path. -/
def makeParents (disk : Disk) (path : String) : Except Fault Disk :=
  let place := Place.of path
  makeFrom disk place.fromRoot [] place.names.dropLast

/-- Writes a file. -/
def write (disk : Disk) (path : String) (content : List UInt8) : Except Fault Disk :=
  let place := Place.of path
  let write (mode : Nat) := disk.put place (.file ⟨content, mode⟩)
  match disk.lookup path with
  | .ok .directory => .error .isDirectory
  | .ok (.file f) => .ok (write f.mode)
  | .error .notFound =>
    match disk.walk place.fromRoot [] place.names.dropLast with
    | .ok .directory => if place.names = [] then .error .notFound else .ok (write 0o644)
    | .ok (.file _) => .error .notDirectory
    | .error fault => .error fault
  | .error fault => .error fault

/-- Changes the permission bits of a file. -/
def setMode (disk : Disk) (path : String) (mode : Nat) : Except Fault Disk :=
  match disk.lookup path with
  | .ok (.file f) => .ok (disk.put (Place.of path) (.file { f with mode }))
  | .ok .directory => .ok disk
  | .error fault => .error fault

theorem read_of_lookup {disk : Disk} {path : String} {f : File}
    (h : disk.lookup path = .ok (.file f)) : disk.read path = .ok f.content := by
  simp [read, h]

end Disk

end FormFetch.Files
