import ValidatedStore.Access.InPlace

/-!
# Walks and their reports

A walk that leads nowhere is reported to whoever asked for it: the path, and why in words. Two walks
are made. A reader takes every key of the path, and notices that a key led to nothing only when
another one follows. A writer notices it at once, and asks whether the key was the last. Whoever
writes or removes walks to the container of the last key; what stops that walk is reported about the
whole path, in the words that were found for the way to the container.
-/

namespace ValidatedStore

/-- The report of a path that leads nowhere. -/
structure PathReport where
  /-- The path that was asked for. -/
  path : KeyPath
  /-- Why it leads nowhere, in words. -/
  reason : String
deriving DecidableEq

/-- A fault on the way along a path, as it is reported. -/
def PathFault.report (path : KeyPath) (fault : PathFault) : PathReport := ⟨path, fault.reason path⟩

/-- The report in words. -/
def PathReport.message (report : PathReport) : String :=
  "invalid path '" ++ report.path.text ++ "': " ++ report.reason

namespace Value

/-- Go along the rest of a path from what its first keys led to; the depth is their number. -/
def follow (path : KeyPath) : Nat → Option Value → KeyPath → Except PathReport (Option Value)
  | _, found, [] => .ok found
  | depth, none, _ :: _ => .error ((PathFault.missing depth).report path)
  | depth, some value, key :: rest =>
    match value.child key with
    | .error _ => .error ((PathFault.notIndexable value.kind depth).report path)
    | .ok found => follow path (depth + 1) found rest

/-- What a reader finds at a path. -/
def lookUp (root : Value) (path : KeyPath) : Except PathReport (Option Value) :=
  follow path 0 (some root) path

/-- The place that a writer finds at a path. -/
def pointTo (root : Value) (path : KeyPath) : Option (Except PathReport (Option Place)) :=
  (root.reach path.length 0 path).map fun result => result.mapError (PathFault.report path)

/-- The container of the last key of a path, and that key. -/
def approach (root : Value) (path : KeyPath) : Option (Except PathReport (Place × String)) :=
  match path.splitLast? with
  | none => some (.error (PathFault.rootHasNoKey.report path))
  | some (last, parent) =>
    (root.pointTo parent).map fun result =>
      match result with
      | .error report => .error { report with path := path }
      | .ok none => .error ((PathFault.missing parent.length).report path)
      | .ok (some place) => .ok (place, last)

/-- Change the container of the last key of a path in place: the root afterwards, and the result. -/
def changeAt {α : Type} (change : Value → String → Option (Value × Except PathFault α))
    (root : Value) (path : KeyPath) : Option (Value × Except PathReport α) :=
  (root.approach path).bind fun result =>
    match result with
    | .error report => some (root, .error report)
    | .ok (place, key) =>
      (change place.content key).map fun (container, outcome) =>
        (place.put container, outcome.mapError (PathFault.report path))

/-- Write at a path below the root. -/
def put (root : Value) (path : KeyPath) (new : Value) : Option (Value × Except PathReport Unit) :=
  root.changeAt (writeEntry path.length new) path

/-- Remove one entry of a container, at the end of a path of the given length: what is in the place
of the container afterwards, and what the entry was. A slot of an array is emptied. -/
def removeEntry (length : Nat) (container : Value) (key : String) :
    Option (Value × Except PathFault (Option Value)) :=
  match container with
  | .object entries =>
    some (.object (Fields.erase key entries), .ok (Fields.find? key entries))
  | .array items =>
    match Word.index? key with
    | none => some (.array items, .ok none)
    | some i => some (.array (items.set i .null), .ok items[i]?)
  | other =>
    (Word.sub? length 1).map fun depth => (other, .error (.notIndexable other.kind depth))

/-- Remove what stands at a path below the root, and return it. -/
def remove (root : Value) (path : KeyPath) : Option (Value × Except PathReport (Option Value)) :=
  root.changeAt (removeEntry path.length) path

end Value

end ValidatedStore
