import ValidatedStore.Medium.Disk

/-!
# The medium in a directory

Every key has one file, named after it. A write goes to a temporary file beside it, which is
forced to the disk and then renamed over the file, so that the file holds the old text or the new
one and nothing else. Any of these steps may go wrong, and then the temporary file is removed.
-/

namespace ValidatedStore

/-- What goes wrong during one write; nothing unless stated. -/
structure Mishaps where
  /-- The temporary file cannot be created. -/
  create : Option IoCause := none
  /-- Writing stops after some bytes. -/
  fill : Option (IoCause × Nat) := none
  /-- The bytes cannot be forced to the disk. -/
  sync : Option IoCause := none
  /-- The file cannot be renamed. -/
  rename : Option IoCause := none
  /-- The temporary file cannot be removed. -/
  remove : Option IoCause := none

/-- Two points in a row. -/
def hasDoublePoint : List Char → Bool
  | '.' :: '.' :: _ => true
  | _ :: rest => hasDoublePoint rest
  | [] => false

/-- Whether a key may name a file: it must not lead out of the directory. -/
def isFileKey (key : String) : Bool :=
  let cs := key.toList
  !(cs.isEmpty || key == "." || hasDoublePoint cs || cs.contains '/' || cs.contains '\\' ||
    cs.contains '\x00')

/-- The name of the file that holds a key. -/
def fileName (key : String) : String := key ++ ".json"

/-- The name of a temporary file, told apart by the process and the count of its writes. -/
def temporaryName (key : String) (process count : Nat) : String :=
  key ++ ".json." ++ toString process ++ "." ++ toString count ++ ".tmp"

/-- A medium that keeps one file per key in a directory. -/
structure FileMedium where
  /-- The path of the directory, as it was given. -/
  path : String
  /-- The location of the directory on its disk. -/
  location : String
  /-- The entries of the directory. -/
  directory : Directory
  /-- The number of the process that writes. -/
  process : Nat
  /-- The writes begun so far. -/
  writes : Nat

namespace FileMedium

/-- The path of a file in the directory. -/
def pathOf (medium : FileMedium) (name : String) : String :=
  medium.path ++ (if medium.path.endsWith "/" then "" else "/") ++ name

/-- The path of the file that holds a key. -/
def pathFor (medium : FileMedium) (key : String) : Except StorageError String :=
  if isFileKey key then .ok (medium.pathOf (fileName key)) else .error (.invalidKey key)

/-- Why a file in the directory cannot be reached by its path, whatever the directory holds. -/
def refusal? (medium : FileMedium) (name : String) : Option IoCause :=
  Disk.refusal? (medium.pathOf name)

/-- The text under a key; a missing file holds none. -/
def read (medium : FileMedium) (key : String) : Except StorageError (Option String) :=
  if isFileKey key then
    match medium.refusal? (fileName key), medium.directory.readText (fileName key) with
    | some cause, _ => .error (.io cause)
    | none, .ok text => .ok (some text)
    | none, .error .notFound => .ok none
    | none, .error cause => .error (.io cause)
  else .error (.invalidKey key)

/-- Write a text to a temporary file and rename it; returns the directory as the attempt leaves
it. -/
def persist (mishaps : Mishaps) (directory : Directory) (temporary target text : String) :
    Except IoCause Unit × Directory :=
  match mishaps.create, directory.create temporary with
  | some cause, _ => (.error cause, directory)
  | none, .error cause => (.error cause, directory)
  | none, .ok created =>
    match mishaps.fill with
    | some (cause, count) =>
      (.error cause, created.fill temporary (text.toUTF8.extract 0 count))
    | none =>
      let filled := created.fill temporary text.toUTF8
      match mishaps.sync, mishaps.rename, filled.rename temporary target with
      | some cause, _, _ => (.error cause, filled)
      | none, some cause, _ => (.error cause, filled)
      | none, none, .error cause => (.error cause, filled)
      | none, none, .ok renamed => (.ok (), renamed)

/-- The directory after an attempt to remove a file, whose failure is ignored. -/
def discard (mishaps : Mishaps) (directory : Directory) (name : String) : Directory :=
  match mishaps.remove, directory.remove name with
  | none, .ok removed => removed
  | _, _ => directory

/-- Replace the text under a key, with the given mishaps on the way. -/
def writeWith (mishaps : Mishaps) (medium : FileMedium) (key text : String) :
    Except StorageError Unit × FileMedium :=
  if isFileKey key then
    let temporary := temporaryName key medium.process medium.writes
    let begun := { medium with writes := medium.writes + 1 }
    let refused := medium.refusal? temporary
    let mishaps :=
      { mishaps with create := mishaps.create <|> refused, remove := mishaps.remove <|> refused }
    match persist mishaps medium.directory temporary (fileName key) text with
    | (.ok _, directory) => (.ok (), { begun with directory := directory })
    | (.error cause, directory) =>
      (.error (.io cause), { begun with directory := discard mishaps directory temporary })
  else (.error (.invalidKey key), medium)

/-- Remove the file that holds a key. -/
def remove (medium : FileMedium) (key : String) : Except StorageError FileMedium :=
  if isFileKey key then
    match medium.refusal? (fileName key), medium.directory.remove (fileName key) with
    | some cause, _ => .error (.io cause)
    | none, .ok directory => .ok { medium with directory := directory }
    | none, .error cause => .error (.io cause)
  else .error (.invalidKey key)

/-- The medium in a directory of a disk. -/
def ofDisk (disk : Disk) (path location : String) (process writes : Nat) : FileMedium :=
  ⟨path, location, (Fields.find? location disk).getD [], process, writes⟩

/-- The disk with the medium's directory as it is now. -/
def toDisk (medium : FileMedium) (disk : Disk) : Disk :=
  Fields.insert medium.location medium.directory disk

end FileMedium

instance : Medium FileMedium where
  read := FileMedium.read
  write := FileMedium.writeWith {}

end ValidatedStore
