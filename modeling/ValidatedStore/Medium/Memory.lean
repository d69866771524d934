import ValidatedStore.Fields
import ValidatedStore.Medium

/-!
# The medium in memory

A map from keys to texts, on which nothing fails. Several stores that are given one such medium
see each other's writes.
-/

namespace ValidatedStore

/-- Texts under keys in memory. -/
structure Memory where
  /-- The texts in the order of their first writing. -/
  entries : Fields String

namespace Memory

/-- A medium that holds nothing. -/
def empty : Memory := ⟨[]⟩

/-- The text under a key. -/
def read (memory : Memory) (key : String) : Option String := Fields.find? key memory.entries

/-- The medium with a text under a key. -/
def write (memory : Memory) (key text : String) : Memory :=
  ⟨Fields.insert key text memory.entries⟩

/-- The medium without a key. -/
def remove (memory : Memory) (key : String) : Memory := ⟨Fields.erase key memory.entries⟩

/-- The number of keys. -/
def size (memory : Memory) : Nat := memory.entries.length

end Memory

instance : Medium Memory where
  read memory key := .ok (memory.read key)
  write memory key text := (.ok (), memory.write key text)

end ValidatedStore
