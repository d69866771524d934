import ValidatedStore.Value

/-!
# Shared graphs

A heap holds containers that many places may refer to, themselves included. Copying a node gives
a value tree, and is refused as soon as it reaches one container a second time. Callable leaves
have no value: they are left out of containers, and a callable alone copies to null.
-/

namespace ValidatedStore

/-- A node of a shared graph. -/
inductive Node
  /-- The null leaf. -/
  | null
  /-- A truth value. -/
  | bool (value : Bool)
  /-- A number. -/
  | number (value : Number)
  /-- A text. -/
  | string (value : String)
  /-- A callable, which has no value. -/
  | function
  /-- The container at an address of the heap. -/
  | container (address : Nat)
deriving DecidableEq

/-- A container of the heap. -/
inductive Cell
  /-- An array with its items. -/
  | array (items : List Node)
  /-- An object with its entries in order. -/
  | object (entries : List (String × Node))

/-- The containers of a graph by address. -/
abbrev Heap := List Cell

namespace Heap

/-- The heap with one more container, and the node that refers to it. -/
def allocate (heap : Heap) (cell : Cell) : Heap × Node :=
  (heap ++ [cell], .container heap.length)

/-- The object behind a node. -/
def entries? (heap : Heap) : Node → Option (Nat × List (String × Node))
  | .container address =>
    match heap[address]? with
    | some (.object entries) => some (address, entries)
    | _ => none
  | _ => none

/-- The array behind a node. -/
def items? (heap : Heap) : Node → Option (Nat × List Node)
  | .container address =>
    match heap[address]? with
    | some (.array items) => some (address, items)
    | _ => none
  | _ => none

/-- Write one entry of an object, `none` when the node is no object. -/
def insert? (heap : Heap) (node : Node) (key : String) (child : Node) : Option Heap :=
  (heap.entries? node).map fun (address, entries) =>
    heap.set address (.object (Fields.insert key child entries))

/-- Add an item at the end of an array, `none` when the node is no array. -/
def push? (heap : Heap) (node : Node) (child : Node) : Option Heap :=
  (heap.items? node).map fun (address, items) => heap.set address (.array (items ++ [child]))

mutual

/-- The heap with fresh containers for a value, and the node of the value. -/
def ofValue (heap : Heap) : Value → Heap × Node
  | .null => (heap, .null)
  | .bool b => (heap, .bool b)
  | .number n => (heap, .number n)
  | .string s => (heap, .string s)
  | .array items =>
    let (heap, nodes) := ofItems heap items
    heap.allocate (.array nodes)
  | .object entries =>
    let (heap, nodes) := ofEntries heap entries
    heap.allocate (.object nodes)

/-- Nodes for a sequence of values. -/
def ofItems (heap : Heap) : List Value → Heap × List Node
  | [] => (heap, [])
  | item :: rest =>
    let (heap, node) := ofValue heap item
    let (heap, nodes) := ofItems heap rest
    (heap, node :: nodes)

/-- Nodes for the entries of an object. -/
def ofEntries (heap : Heap) : List (String × Value) → Heap × List (String × Node)
  | [] => (heap, [])
  | (key, value) :: rest =>
    let (heap, node) := ofValue heap value
    let (heap, nodes) := ofEntries heap rest
    (heap, (key, node) :: nodes)

end

/-- Copy the items of an array one after another, handing on the addresses visited so far; `none`
says that a container was reached again. -/
def copyItems (copy : Node → List Nat → Option (Option Value × List Nat)) :
    List Node → List Nat → Option (List Value × List Nat)
  | [], visited => some ([], visited)
  | node :: rest, visited => do
    let (value, visited) ← copy node visited
    let (values, visited) ← copyItems copy rest visited
    return (value.toList ++ values, visited)

/-- Copy the entries of an object one after another. -/
def copyEntries (copy : Node → List Nat → Option (Option Value × List Nat)) :
    List (String × Node) → List Nat → Option (List (String × Value) × List Nat)
  | [], visited => some ([], visited)
  | (key, node) :: rest, visited => do
    let (value, visited) ← copy node visited
    let (values, visited) ← copyEntries copy rest visited
    return (value.toList.map (fun v => (key, v)) ++ values, visited)

/-- Copy a node; a callable has no value. Every step down marks one more address as visited, so
that a fuel beyond the number of containers is never used up. -/
def copyNode (heap : Heap) : Nat → Node → List Nat → Option (Option Value × List Nat)
  | _, .null, visited => some (some .null, visited)
  | _, .bool b, visited => some (some (.bool b), visited)
  | _, .number n, visited => some (some (.number n), visited)
  | _, .string s, visited => some (some (.string s), visited)
  | _, .function, visited => some (none, visited)
  | 0, .container _, _ => none
  | fuel + 1, .container address, visited =>
    if visited.contains address then none
    else
      match heap[address]? with
      | none => some (none, visited)
      | some (.array items) => do
        let (values, visited) ← copyItems (copyNode heap fuel) items (address :: visited)
        return (some (.array values), visited)
      | some (.object entries) => do
        let (values, visited) ← copyEntries (copyNode heap fuel) entries (address :: visited)
        return (some (.object values), visited)

/-- The value tree of a node, `none` when a container is reached twice. -/
def deepCopy (heap : Heap) (node : Node) : Option Value :=
  (copyNode heap (heap.length + 1) node []).map fun copied => copied.1.getD .null

/-- The message about a graph that cannot be copied. -/
def circularMessage : String := "circular reference detected while cloning"

end Heap

end ValidatedStore
