import ValidatedStore.Fields
import ValidatedStore.Medium

/-!
# Disks and directories

A directory is a map from names to files and subdirectories, and a disk is a map from locations
to directories. The primitive operations fail as the operating system does, and a failed one
changes nothing. Paths are followed part by part: a point stays where it is, two points lead to
the directory above, and every part but the last has to be a directory.
-/

namespace ValidatedStore

/-- What stands under a name of a directory. -/
inductive DirectoryEntry
  /-- A file with its bytes. -/
  | file (bytes : ByteArray)
  /-- A subdirectory, whose content is kept under its own location. -/
  | subdirectory

/-- The entries of one directory by name. -/
abbrev Directory := Fields DirectoryEntry

/-- The greatest number of bytes in a file name. -/
def maxNameBytes : Nat := 255

/-- The greatest number of bytes in a path. -/
def maxPathBytes : Nat := 4095

namespace Directory

/-- What stands under a name that may be used. -/
def lookup (directory : Directory) (name : String) : Except IoCause (Option DirectoryEntry) :=
  if maxNameBytes < name.utf8ByteSize then .error .nameTooLong
  else .ok (Fields.find? name directory)

/-- The bytes of a file. -/
def readBytes (directory : Directory) (name : String) : Except IoCause ByteArray :=
  match directory.lookup name with
  | .error cause => .error cause
  | .ok none => .error .notFound
  | .ok (some .subdirectory) => .error .isADirectory
  | .ok (some (.file bytes)) => .ok bytes

/-- The text of a file. -/
def readText (directory : Directory) (name : String) : Except IoCause String :=
  match directory.readBytes name with
  | .error cause => .error cause
  | .ok bytes =>
    match String.fromUTF8? bytes with
    | some text => .ok text
    | none => .error .notText

/-- The directory with an empty file under a name, in the place of any file there. -/
def create (directory : Directory) (name : String) : Except IoCause Directory :=
  match directory.lookup name with
  | .error cause => .error cause
  | .ok (some .subdirectory) => .error .isADirectory
  | .ok _ => .ok (Fields.insert name (.file ByteArray.empty) directory)

/-- The directory with other bytes in a file that was created before. -/
def fill (directory : Directory) (name : String) (bytes : ByteArray) : Directory :=
  Fields.insert name (.file bytes) directory

/-- The directory with one file under the name of another, which it replaces. -/
def rename (directory : Directory) (old new : String) : Except IoCause Directory :=
  match directory.readBytes old, directory.lookup new with
  | .error cause, _ => .error cause
  | _, .error cause => .error cause
  | _, .ok (some .subdirectory) => .error .isADirectory
  | .ok bytes, .ok _ => .ok (Fields.insert new (.file bytes) (Fields.erase old directory))

/-- The directory without a file. -/
def remove (directory : Directory) (name : String) : Except IoCause Directory :=
  match directory.readBytes name with
  | .error cause => .error cause
  | .ok _ => .ok (Fields.erase name directory)

end Directory

/-- Directories by location. -/
abbrev Disk := Fields Directory

namespace Disk

/-- The directory at a location. -/
def directory (disk : Disk) (location : String) : Except IoCause Directory :=
  match Fields.find? location disk with
  | some entries => .ok entries
  | none => .error .notFound

/-- The text of a file. -/
def readText (disk : Disk) (location name : String) : Except IoCause String :=
  match disk.directory location with
  | .error cause => .error cause
  | .ok entries => entries.readText name

/-- Whether something stands under a name. -/
def hasEntry (disk : Disk) (location name : String) : Bool :=
  match disk.directory location with
  | .error _ => false
  | .ok entries => Fields.has name entries

/-- The disk with a file of the given bytes, made anew or overwritten in place. -/
def writeBytes (disk : Disk) (location name : String) (bytes : ByteArray) :
    Except IoCause Disk :=
  match disk.directory location with
  | .error cause => .error cause
  | .ok entries =>
    match entries.create name with
    | .error cause => .error cause
    | .ok created => .ok (Fields.insert location (created.fill name bytes) disk)

/-- The location of a directory below a root, by the names on the way. -/
def locationOf (root : String) (names : List String) : String := "/".intercalate (root :: names)

/-- Follow the parts of a path from a directory, by its names; the directory reached, by its
names. The root has nothing above it. -/
def walk (disk : Disk) (root : String) : List String → List String → Except IoCause (List String)
  | names, [] => .ok names
  | names, part :: rest =>
    if part = "." then walk disk root names rest
    else if part = ".." then walk disk root names.dropLast rest
    else
      match (disk.directory (locationOf root names)).bind (·.lookup part) with
      | .error cause => .error cause
      | .ok none => .error .notFound
      | .ok (some (.file _)) => .error .notADirectory
      | .ok (some .subdirectory) => walk disk root (names ++ [part]) rest

/-- Whether the parts of a path lead to a directory. -/
def hasDirectory (disk : Disk) (root : String) (parts : List String) : Bool :=
  (disk.walk root [] parts).toBool

/-- The disk with one more directory, in a directory that is there. -/
def makeDirectory (disk : Disk) (root : String) (parts : List String) : Except IoCause Disk :=
  match parts.getLast?, disk.walk root [] parts.dropLast with
  | none, _ => .error .alreadyExists
  | some _, .error cause => .error cause
  | some name, .ok names =>
    if name = "." ∨ name = ".." then .error .alreadyExists
    else
      let location := locationOf root names
      match disk.directory location with
      | .error cause => .error cause
      | .ok entries =>
        match entries.lookup name with
        | .error cause => .error cause
        | .ok (some _) => .error .alreadyExists
        | .ok none =>
          let disk := Fields.insert location (Fields.insert name .subdirectory entries) disk
          .ok (Fields.insert (locationOf root (names ++ [name])) [] disk)

/-- Make a directory unless it is there; when the way to it is missing, prepare the way first. -/
def ensure (disk : Disk) (root : String) (parts : List String)
    (prepare : Disk → Except IoCause Unit × Disk) : Except IoCause Unit × Disk :=
  let settle (disk : Disk) (cause : IoCause) : Except IoCause Unit × Disk :=
    (if disk.hasDirectory root parts then .ok () else .error cause, disk)
  match disk.makeDirectory root parts with
  | .ok disk => (.ok (), disk)
  | .error .notFound =>
    match prepare disk with
    | (.error cause, disk) => (.error cause, disk)
    | (.ok _, disk) =>
      match disk.makeDirectory root parts with
      | .ok disk => (.ok (), disk)
      | .error cause => settle disk cause
  | .error cause => settle disk cause

/-- Make the directories along a path that are missing, the path being given by its parts from the
last to the first. -/
def ensureAll (root : String) : List String → Disk → Except IoCause Unit × Disk
  | [], disk => (.ok (), disk)
  | part :: before, disk => disk.ensure root (part :: before).reverse (ensureAll root before)

/-- The parts of a path text. -/
def partsOf (path : String) : List String := (path.splitOn "/").filter (· != "")

/-- The path of a text below a root. -/
def pathBelow (root text : String) : String := root ++ "/" ++ text

/-- Why a path cannot be used whatever the disk holds. -/
def refusal? (path : String) : Option IoCause :=
  if path.contains '\x00' then some .nulInPath
  else if maxPathBytes < path.utf8ByteSize then some .nameTooLong
  else none

/-- Make the directories along a path below a root that are missing; the location of the last one,
and the disk afterwards, on which those made before a failure stay. -/
def makeDirectories (disk : Disk) (root text : String) : Except IoCause String × Disk :=
  match refusal? (pathBelow root text) with
  | some cause => (.error cause, disk)
  | none =>
    let parts := partsOf text
    let above := (parts.filter (· != ".")).reverse.tail
    match disk.ensure root parts (ensureAll root above) with
    | (.error cause, disk) => (.error cause, disk)
    | (.ok _, disk) => ((disk.walk root [] parts).map (locationOf root), disk)

/-- The disk with a file of the given bytes at a path below a root, in a directory that is there. -/
def putFile (disk : Disk) (root text : String) (bytes : ByteArray) : Except IoCause Disk :=
  let parts := partsOf text
  match refusal? (pathBelow root text), parts.getLast?, disk.walk root [] parts.dropLast with
  | some cause, _, _ => .error cause
  | none, none, _ => .error .isADirectory
  | none, some _, .error cause => .error cause
  | none, some name, .ok names =>
    if name = "." ∨ name = ".." ∨ text.endsWith "/" then .error .isADirectory
    else disk.writeBytes (locationOf root names) name bytes

end Disk

end ValidatedStore
