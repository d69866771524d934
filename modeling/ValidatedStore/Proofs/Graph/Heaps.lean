import ValidatedStore.Graph
import ValidatedStore.Proofs.Fields

/-!
# Heaps that the operations build

A heap grows by fresh containers, empty or filled from a value, and its containers change by writing
entries and adding items. Every node in it refers to a container that is there: nothing else can be
put in, and no container ever goes away.
-/

namespace ValidatedStore

/-- The nodes in a container, in order. -/
def Cell.children : Cell → List Node
  | .array items => items
  | .object entries => entries.map Prod.snd

namespace Heap

variable {heap larger changed : Heap} {node child : Node} {cell : Cell} {address : Nat}
  {key : String}

/-- The container that a node refers to is there. -/
def Holds (heap : Heap) (node : Node) : Prop := ∀ address, node = .container address →
  address < heap.length

/-- Everything that its containers refer to is there. -/
def Closed (heap : Heap) : Prop := ∀ cell ∈ heap, ∀ child ∈ cell.children, heap.Holds child

/-- The heaps that the operations on nodes lead to. -/
inductive Built : Heap → Prop
  /-- At first there is no container. -/
  | empty : Built []
  /-- A fresh array. -/
  | array {heap : Heap} (hb : Built heap) : Built (heap.allocate (.array [])).1
  /-- A fresh object. -/
  | object {heap : Heap} (hb : Built heap) : Built (heap.allocate (.object [])).1
  /-- Fresh containers for a value. -/
  | ofValue {heap : Heap} {value : Value} (hb : Built heap) (hv : value.WellFormed) :
      Built (heap.ofValue value).1
  /-- An entry of an object is written. -/
  | insert {heap changed : Heap} {node child : Node} {key : String} (hb : Built heap)
      (hc : heap.Holds child) (hi : heap.insert? node key child = some changed) : Built changed
  /-- An item is added to an array. -/
  | push {heap changed : Heap} {node child : Node} (hb : Built heap) (hc : heap.Holds child)
      (hp : heap.push? node child = some changed) : Built changed

theorem Holds.of_length_le (h : heap.Holds node) (hl : heap.length ≤ larger.length) :
    larger.Holds node :=
  fun address he => Nat.lt_of_lt_of_le (h address he) hl

/-- The containers that a closed heap refers to are there. -/
theorem Closed.holds (h : heap.Closed) (hc : heap[address]? = some cell) :
    ∀ child ∈ cell.children, heap.Holds child :=
  h cell (List.mem_of_getElem? hc)

/-- A heap stays closed when a container is put in the place of another. -/
theorem Closed.set (h : heap.Closed) (hc : ∀ child ∈ cell.children, heap.Holds child) :
    Closed (List.set heap address cell) := by
  intro other hm child hchild
  have hl : heap.length ≤ (List.set heap address cell).length := by simp
  rcases List.mem_or_eq_of_mem_set hm with hm | rfl
  · exact (h other hm child hchild).of_length_le hl
  · exact (hc child hchild).of_length_le hl

/-- A node was put into a heap, with fresh containers behind those that were there. -/
structure Extends (heap larger : Heap) (nodes : List Node) : Prop where
  /-- What was there is still there. -/
  prefix_of : heap <+: larger
  /-- Everything referred to is there. -/
  closed : heap.Closed → larger.Closed
  /-- The containers of the nodes are there. -/
  holds : heap.Closed → ∀ node ∈ nodes, larger.Holds node

namespace Extends

theorem leaf (hn : ∀ address, node ≠ .container address) : heap.Extends heap [node] where
  prefix_of := List.prefix_refl heap
  closed := id
  holds _ _ hm address he := absurd (List.mem_singleton.mp hm ▸ he) (hn address)

theorem nil : heap.Extends heap [] where
  prefix_of := List.prefix_refl heap
  closed := id
  holds _ _ hm := absurd hm List.not_mem_nil

/-- One node after another. -/
theorem cons {largest : Heap} {nodes : List Node} (h : heap.Extends larger [node])
    (hrest : larger.Extends largest nodes) : heap.Extends largest (node :: nodes) where
  prefix_of := h.prefix_of.trans hrest.prefix_of
  closed hc := hrest.closed (h.closed hc)
  holds hc other hm := by
    rcases List.mem_cons.mp hm with rfl | hm
    · exact (h.holds hc other List.mem_cons_self).of_length_le hrest.prefix_of.length_le
    · exact hrest.holds (h.closed hc) other hm

/-- A fresh container for nodes that are there. -/
theorem allocate (h : heap.Extends larger cell.children) :
    heap.Extends (larger.allocate cell).1 [(larger.allocate cell).2] where
  prefix_of := h.prefix_of.trans (List.prefix_append larger [cell])
  closed hc := by
    have hl : larger.length ≤ (larger ++ [cell]).length := by simp
    intro other hm child hchild
    rcases List.mem_append.mp hm with hm | hm
    · exact (h.closed hc other hm child hchild).of_length_le hl
    · rw [List.mem_singleton.mp hm] at hchild
      exact (h.holds hc child hchild).of_length_le hl
  holds _ other hm address he := by
    rw [List.mem_singleton.mp hm] at he
    obtain rfl := Node.container.inj he
    simp [Heap.allocate]

/-- A fresh container with nothing in it. -/
theorem fresh (h : cell.children = []) :
    heap.Extends (heap.allocate cell).1 [(heap.allocate cell).2] := by
  have hnone : heap.Extends heap cell.children := h ▸ nil
  exact hnone.allocate

end Extends

mutual

theorem extends_ofValue (heap : Heap) : ∀ value : Value,
    heap.Extends (heap.ofValue value).1 [(heap.ofValue value).2]
  | .null => .leaf (by simp [ofValue])
  | .bool _ => .leaf (by simp [ofValue])
  | .number _ => .leaf (by simp [ofValue])
  | .string _ => .leaf (by simp [ofValue])
  | .array items => by
    rw [ofValue]
    exact (extends_ofItems heap items).allocate
  | .object entries => by
    rw [ofValue]
    exact (extends_ofEntries heap entries).allocate

theorem extends_ofItems (heap : Heap) : ∀ items : List Value,
    heap.Extends (ofItems heap items).1 (ofItems heap items).2
  | [] => .nil
  | item :: rest => by
    rw [ofItems]
    exact (extends_ofValue heap item).cons (extends_ofItems _ rest)

theorem extends_ofEntries (heap : Heap) : ∀ entries : List (String × Value),
    heap.Extends (ofEntries heap entries).1 ((ofEntries heap entries).2.map Prod.snd)
  | [] => .nil
  | (key, value) :: rest => by
    rw [ofEntries]
    exact (extends_ofValue heap value).cons (extends_ofEntries _ rest)

end

theorem getElem?_of_entries? {entries : List (String × Node)}
    (h : heap.entries? node = some (address, entries)) :
    heap[address]? = some (.object entries) := by
  unfold entries? at h
  split at h
  next found =>
    split at h
    next hc =>
      obtain ⟨rfl, rfl⟩ := Prod.mk.inj (Option.some.inj h)
      exact hc
    next => cases h
  next => cases h

theorem getElem?_of_items? {items : List Node} (h : heap.items? node = some (address, items)) :
    heap[address]? = some (.array items) := by
  unfold items? at h
  split at h
  next found =>
    split at h
    next hc =>
      obtain ⟨rfl, rfl⟩ := Prod.mk.inj (Option.some.inj h)
      exact hc
    next => cases h
  next => cases h

/-- A heap stays closed when an entry is written that is there. -/
theorem Closed.insert (h : heap.Closed) (hc : heap.Holds child)
    (hi : heap.insert? node key child = some changed) : changed.Closed := by
  obtain ⟨⟨address, entries⟩, he, rfl⟩ := Option.map_eq_some_iff.mp hi
  refine h.set fun other hm => ?_
  obtain ⟨entry, hentry, rfl⟩ := List.mem_map.mp hm
  rcases Fields.mem_insert hentry with rfl | hentry
  · exact hc
  · exact h.holds (getElem?_of_entries? he) _ (List.mem_map_of_mem hentry)

/-- A heap stays closed when an item is added that is there. -/
theorem Closed.push (h : heap.Closed) (hc : heap.Holds child)
    (hp : heap.push? node child = some changed) : changed.Closed := by
  obtain ⟨⟨address, items⟩, he, rfl⟩ := Option.map_eq_some_iff.mp hp
  refine h.set fun other hm => ?_
  rcases List.mem_append.mp hm with hm | hm
  · exact h.holds (getElem?_of_items? he) _ hm
  · rw [List.mem_singleton.mp hm]
    exact hc

/-- In a heap that the operations built everything referred to is there. -/
theorem Built.closed (h : Built heap) : heap.Closed := by
  induction h with
  | empty => exact fun cell hm => absurd hm List.not_mem_nil
  | array _ ih => exact (Extends.fresh rfl).closed ih
  | object _ ih => exact (Extends.fresh rfl).closed ih
  | ofValue _ _ ih => exact (extends_ofValue _ _).closed ih
  | insert _ hc hi ih => exact ih.insert hc hi
  | push _ hc hp ih => exact ih.push hc hp

end Heap

end ValidatedStore
