/-!
# Named fields in order

Objects and declared field mappings are lists of named entries. A name is looked up at its first
entry; writing a name that is there replaces the entry in place, and a new name comes last.
-/

namespace ValidatedStore

/-- Entries with names, in order. -/
abbrev Fields (α : Type) := List (String × α)

namespace Fields

variable {α β : Type}

/-- The names in order. -/
def names (fields : Fields α) : List String := fields.map Prod.fst

/-- No name occurs twice. -/
def Distinct (fields : Fields α) : Prop := fields.names.Nodup

/-- The entry of a name. -/
def find? (name : String) : Fields α → Option α
  | [] => none
  | (key, value) :: rest => if key = name then some value else find? name rest

/-- Whether a name has an entry. -/
def has (name : String) (fields : Fields α) : Bool := (find? name fields).isSome

/-- Replace the entry of a name in place, or add it as the last one. -/
def insert (name : String) (value : α) : Fields α → Fields α
  | [] => [(name, value)]
  | (key, old) :: rest =>
    if key = name then (key, value) :: rest else (key, old) :: insert name value rest

/-- Drop the entry of a name; the others keep their order. -/
def erase (name : String) : Fields α → Fields α
  | [] => []
  | (key, value) :: rest => if key = name then rest else (key, value) :: erase name rest

/-- The fields obtained by writing a list of entries one after another. -/
def insertAll (fields : Fields α) (entries : List (String × α)) : Fields α :=
  entries.foldl (fun acc entry => insert entry.1 entry.2 acc) fields

end Fields

end ValidatedStore
