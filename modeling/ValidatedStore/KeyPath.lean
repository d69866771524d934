/-!
# Key paths

A location in a value is the sequence of keys on the way to it; the empty path is the root. A
caller names a location by its keys or by one text that is cut at a separator. Nothing is escaped,
so a key named by text never contains the separator.
-/

namespace ValidatedStore

/-- The keys from the root to a location. -/
abbrev KeyPath := List String

namespace KeyPath

/-- The location of the whole value. -/
def root : KeyPath := []

/-- The keys joined with points. -/
def text (path : KeyPath) : String := ".".intercalate path

/-- The path in a message: its text, or a mark for the root. -/
def shown (path : KeyPath) : String := if path.isEmpty then "<root>" else path.text

/-- A list of paths in a message. -/
def shownList (paths : List KeyPath) : String := "[" ++ ", ".intercalate (paths.map shown) ++ "]"

/-- The last key and the path to its container; the root has neither. -/
def splitLast? (path : KeyPath) : Option (String × KeyPath) :=
  path.getLast?.map fun key => (key, path.dropLast)

/-- Whether one path lies on the way to another, or is the other. -/
def isAncestorOf (path other : KeyPath) : Bool := path.isPrefixOf other

/-- The pieces of a text between the occurrences of a separator, found from the left without
overlap; `skip` counts the characters of a found separator that are still to be passed over. -/
def cut (separator : List Char) : Nat → List Char → List (List Char)
  | _, [] => [[]]
  | skip + 1, _ :: rest => cut separator skip rest
  | 0, c :: rest =>
    if separator.isPrefixOf (c :: rest) then [] :: cut separator (separator.length - 1) rest
    else
      match cut separator 0 rest with
      | [] => [[c]]
      | piece :: pieces => (c :: piece) :: pieces

/-- The path that a text names: the empty text is the root, and an empty separator cuts nothing. -/
def ofText (separator text : String) : KeyPath :=
  if text.isEmpty then root
  else if separator.isEmpty then [text]
  else (cut separator.toList 0 text.toList).map String.ofList

end KeyPath

/-- How a caller names a location. -/
inductive Selector
  /-- One text, to be cut at the separator. -/
  | text (text : String)
  /-- The keys themselves. -/
  | keys (path : KeyPath)
deriving DecidableEq

/-- The path that a selector names. -/
def Selector.resolve (separator : String) : Selector → KeyPath
  | .text joined => KeyPath.ofText separator joined
  | .keys path => path

end ValidatedStore
