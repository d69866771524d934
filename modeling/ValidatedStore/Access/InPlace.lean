import ValidatedStore.Access

/-!
# Writing in place

Whoever owns a value writes into it without making another one: a walk from the root hands out the
container of the last key, the entry is changed there, and a write that is refused leaves the
container as it found it. Depths, lengths and indices are machine words all the while. A sum, a
difference or a product of words may leave them; reading an index takes note of that and finds no
index, while a walk or a write in which it happened would have no result at all.
-/

namespace ValidatedStore

namespace Word

/-- How many words there are: they are the numbers below this one. -/
def count : Nat := 2 ^ 64

/-- The sum of two words, where it is a word. -/
def add? (a b : Nat) : Option Nat := if a + b < count then some (a + b) else none

/-- The difference of two words, where it is not below zero. -/
def sub? (a b : Nat) : Option Nat := if b ≤ a then some (a - b) else none

/-- The product of two words, where it is a word. -/
def mul? (a b : Nat) : Option Nat := if a * b < count then some (a * b) else none

/-- The word that a list of decimal digits spells, read digit by digit. -/
def ofDigits? (ds : List Char) : Option Nat :=
  ds.foldlM (fun n c => (mul? 10 n).bind fun tens => add? tens (Decimal.digitValue c)) 0

/-- The index that a key denotes, read with the arithmetic of words. -/
def index? (key : String) : Option Nat :=
  let ds := key.toList
  if ds ≠ [] ∧ ds.all Char.isDigit ∧ (ds.length = 1 ∨ ds.head? ≠ some '0') then ofDigits? ds
  else none

end Word

namespace Value

/-- A place inside what a key of a container leads to, as a place of the container. -/
def Place.inside (container : Value) (key : String) (place : Place) : Place :=
  ⟨place.content, fun new => container.putChild key (place.put new)⟩

/-- The place at a path below a value that stands at a depth itself. The length is that of the whole
path, which tells the last key from the others. -/
def reach (length : Nat) : Nat → Value → KeyPath → Option (Except PathFault (Option Place))
  | _, value, [] => some (.ok (some ⟨value, id⟩))
  | depth, value, key :: rest =>
    match value.child key with
    | .error _ => some (.error (.notIndexable value.kind depth))
    | .ok found =>
      match Word.add? depth 1, found with
      | none, _ => none
      | some next, none => some (if next = length then .ok none else .error (.missing next))
      | some next, some inner =>
        (inner.reach length next rest).map fun result =>
          result.map fun place? => place?.map (.inside value key)

/-- The container of the last key of a path, and that key. -/
def reachContainer (root : Value) (path : KeyPath) :
    Option (Except PathFault (Place × String)) :=
  match path.splitLast? with
  | none => some (.error .rootHasNoKey)
  | some (last, parent) =>
    (root.reach parent.length 0 parent).map fun result =>
      match result with
      | .error fault => .error fault
      | .ok none => .error (.missing parent.length)
      | .ok (some place) => .ok (place, last)

/-- Write one entry of a container, at the end of a path of the given length: what is in the place
of the container afterwards, and whether the entry was written. -/
def writeEntry (length : Nat) (new container : Value) (key : String) :
    Option (Value × Except PathFault Unit) :=
  match container with
  | .object entries => some (.object (Fields.insert key new entries), .ok ())
  | .array items =>
    match Word.index? key with
    | none => some (.array items, .error (.notAnIndex key))
    | some i =>
      if i < items.length then some (.array (items.set i new), .ok ())
      else
        (Word.sub? i items.length).map fun gap =>
          if gap ≤ maxArrayGap then
            (.array (items ++ List.replicate gap .null ++ [new]), .ok ())
          else (.array items, .error (.pastEnd i))
  | other =>
    (Word.sub? length 1).map fun depth => (other, .error (.notIndexable other.kind depth))

/-- Write at a path below the root: the root afterwards, and whether the write was carried out. -/
def assign (root : Value) (path : KeyPath) (new : Value) : Option (Value × Except PathFault Unit) :=
  (root.reachContainer path).bind fun result =>
    match result with
    | .error fault => some (root, .error fault)
    | .ok (place, key) =>
      (writeEntry path.length new place.content key).map fun (container, outcome) =>
        (place.put container, outcome)

end Value

end ValidatedStore
