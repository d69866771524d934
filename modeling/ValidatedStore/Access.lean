import ValidatedStore.KeyPath
import ValidatedStore.Value

/-!
# Reaching into a value

Objects are indexed by key and arrays by canonical decimal index. Reading, writing, removing and
probing all walk the same way: every key before the last has to lead to something, and only the
last may be missing. Each walk is a recursion on the path, and a fault carries the depth at which
it arose, counted from the value where the walk began.
-/

namespace ValidatedStore

/-- Why a path does not lead anywhere. -/
inductive PathFault
  /-- The keys up to this depth lead to nothing, and further keys follow. -/
  | missing (depth : Nat)
  /-- At this depth stands a value of a kind that has no keys. -/
  | notIndexable (kind : Kind) (depth : Nat)
  /-- The root is no entry of a container. -/
  | rootHasNoKey
  /-- An array is written at a key that is no index. -/
  | notAnIndex (key : String)
  /-- An array is written too far past its end. -/
  | pastEnd (index : Nat)
deriving DecidableEq

/-- Null slots that a write may add to reach an index past the end of an array. -/
def maxArrayGap : Nat := 1024

namespace PathFault

/-- The fault seen from the container around the value where the walk began. -/
def below : PathFault → PathFault
  | .missing depth => .missing (depth + 1)
  | .notIndexable kind depth => .notIndexable kind (depth + 1)
  | fault => fault

/-- The fault in words, for a walk along the given path. -/
def reason (path : KeyPath) : PathFault → String
  | .missing depth => "'" ++ KeyPath.text (path.take depth) ++ "' does not exist"
  | .notIndexable kind depth =>
    "cannot index into " ++ kind.name ++ " at '" ++ KeyPath.text (path.take depth) ++ "'"
  | .rootHasNoKey => "the root cannot be addressed by key"
  | .notAnIndex key => "'" ++ key ++ "' is not an array index"
  | .pastEnd index =>
    "index " ++ toString index ++ " is more than " ++ toString maxArrayGap ++
      " past the end of the array"

/-- The message about a path that leads nowhere. -/
def message (path : KeyPath) (fault : PathFault) : String :=
  "invalid path '" ++ path.text ++ "': " ++ fault.reason path

end PathFault

/-- The array index that a key denotes: plain decimal below `2 ^ 64` without sign or leading
zeros. -/
def arrayIndex? (key : String) : Option Nat :=
  let ds := key.toList
  let index := Decimal.ofDigits ds
  if ds ≠ [] ∧ ds.all Char.isDigit ∧ (ds.length = 1 ∨ ds.head? ≠ some '0') ∧ index < 2 ^ 64 then
    some index
  else none

namespace Value

/-- What a key leads to in a container; other values have no keys. -/
def child (key : String) : Value → Except PathFault (Option Value)
  | .object entries => .ok (Fields.find? key entries)
  | .array items => .ok ((arrayIndex? key).bind fun i => items[i]?)
  | value => .error (.notIndexable value.kind 0)

/-- The value at a path. The last key may lead to nothing; an earlier one may not. -/
def find : Value → KeyPath → Except PathFault (Option Value)
  | value, [] => .ok (some value)
  | value, key :: rest =>
    match value.child key with
    | .error fault => .error fault
    | .ok none => if rest.isEmpty then .ok none else .error (.missing 1)
    | .ok (some inner) => (inner.find rest).mapError PathFault.below

/-- Put another value in the place of the one that a key leads to. -/
def putChild (container : Value) (key : String) (inner : Value) : Value :=
  match container with
  | .object entries => .object (Fields.insert key inner entries)
  | .array items =>
    match arrayIndex? key with
    | some i => .array (items.set i inner)
    | none => .array items
  | other => other

/-- Change the container at the end of a path, given as the container and the last key; the change
may yield a result. -/
def edit {α : Type} (change : Value → String → Except PathFault (Value × α)) :
    Value → KeyPath → Except PathFault (Value × α)
  | _, [] => .error .rootHasNoKey
  | value, [key] => change value key
  | value, key :: next :: rest =>
    match value.child key with
    | .error fault => .error fault
    | .ok none => .error (.missing 1)
    | .ok (some inner) =>
      match edit change inner (next :: rest) with
      | .error fault => .error fault.below
      | .ok (inner, result) => .ok (value.putChild key inner, result)

/-- Write one entry of a container. An array grows to the index with nulls in between. -/
def writeChild (new : Value) (value : Value) (key : String) : Except PathFault (Value × Unit) :=
  match value with
  | .object entries => .ok (.object (Fields.insert key new entries), ())
  | .array items =>
    match arrayIndex? key with
    | none => .error (.notAnIndex key)
    | some i =>
      if i < items.length then .ok (.array (items.set i new), ())
      else if i - items.length ≤ maxArrayGap then
        .ok (.array (items ++ List.replicate (i - items.length) .null ++ [new]), ())
      else .error (.pastEnd i)
  | value => .error (.notIndexable value.kind 0)

/-- Remove one entry of a container and return it. An array keeps its length, with null in the
slot. -/
def removeChild (value : Value) (key : String) : Except PathFault (Value × Option Value) :=
  match value with
  | .object entries => .ok (.object (Fields.erase key entries), Fields.find? key entries)
  | .array items =>
    match arrayIndex? key with
    | none => .ok (.array items, none)
    | some i => .ok (.array (items.set i .null), items[i]?)
  | value => .error (.notIndexable value.kind 0)

/-- The value with another one at a path below the root; containers on the way are never made. -/
def set (value : Value) (path : KeyPath) (new : Value) : Except PathFault Value :=
  (edit (writeChild new) value path).map Prod.fst

/-- The value without what stands at a path below the root, and what stood there. -/
def delete (value : Value) (path : KeyPath) : Except PathFault (Value × Option Value) :=
  edit removeChild value path

/-- Whether a path resolves, its last key apart: the container of the last key exists. -/
def resolves (value : Value) (path : KeyPath) : Bool :=
  match path.splitLast? with
  | none => true
  | some (_, parent) =>
    match value.find parent with
    | .ok (some (.object _)) => true
    | .ok (some (.array _)) => true
    | _ => false

/-- A place inside a value: what stands there, and the whole value with something else there. -/
structure Place where
  /-- What stands at the place. -/
  content : Value
  /-- The whole value after the place is overwritten. -/
  put : Value → Value

/-- The place at a path, which may be the root. -/
def locate : Value → KeyPath → Except PathFault (Option Place)
  | value, [] => .ok (some ⟨value, id⟩)
  | value, key :: rest =>
    match value.child key with
    | .error fault => .error fault
    | .ok none => if rest.isEmpty then .ok none else .error (.missing 1)
    | .ok (some inner) =>
      match inner.locate rest with
      | .error fault => .error fault.below
      | .ok none => .ok none
      | .ok (some place) => .ok (some ⟨place.content, fun new => value.putChild key (place.put new)⟩)

end Value

end ValidatedStore
