import ValidatedStore.Binary64
import ValidatedStore.Fields

/-!
# TOML documents

A document is a list of statements: assignments to dotted keys, and headers that open a table or
one more element of an array of tables. Carrying the statements out builds the root table; a key
is defined once, a table is opened by one header at most, and dotted keys only extend tables that
dotted keys made, although they may pass through others that have no header of their own.
-/

namespace ValidatedStore

namespace Toml

/-- A TOML value. -/
inductive Value
  /-- A text. -/
  | string (text : String)
  /-- A whole number of the signed 64-bit range. -/
  | integer (n : Int)
  /-- A double, the infinities and the undefined value included. -/
  | float (x : Binary64.Extended)
  /-- A truth value. -/
  | boolean (b : Bool)
  /-- A date, a time, or both, as written. -/
  | datetime (text : String)
  /-- A sequence of values. -/
  | array (items : List Value)
  /-- A table written in one line. -/
  | inlineTable (entries : List (String × Value))

/-- How a table came to be. -/
inductive Origin
  /-- By a header of its own, or as the root. -/
  | header
  /-- On the way to a table with a header. -/
  | implied
  /-- On the way to a dotted key. -/
  | dotted
deriving DecidableEq

/-- What a key of a table holds. -/
inductive Item
  /-- A value. -/
  | value (v : Value)
  /-- A table. -/
  | table (origin : Origin) (entries : List (String × Item))
  /-- An array of tables, the last of which is open. -/
  | tables (elements : List (List (String × Item)))

/-- A statement of a document. -/
inductive Statement
  /-- A dotted key gets a value. -/
  | assign (key : List String) (value : Value)
  /-- A header opens a table. -/
  | openTable (key : List String)
  /-- A header opens one more element of an array of tables. -/
  | openElement (key : List String)

/-- The entries of a table. -/
abbrev Entries := List (String × Item)

/-- Change the last element of a list. -/
def updateLast {α : Type} (change : α → Option α) : List α → Option (List α)
  | [] => none
  | [last] => (change last).map fun changed => [changed]
  | first :: rest => (updateLast change rest).map fun changed => first :: changed

/-- Change the table at the end of a path of headers. Missing tables on the way are implied. -/
def atHeader (change : Entries → Option Entries) : List String → Entries → Option Entries
  | [], entries => change entries
  | key :: rest, entries =>
    match Fields.find? key entries with
    | none => do
      let inner ← atHeader change rest []
      return Fields.insert key (.table .implied inner) entries
    | some (.value _) => none
    | some (.table origin inner) => do
      let inner ← atHeader change rest inner
      return Fields.insert key (.table origin inner) entries
    | some (.tables elements) => do
      let elements ← updateLast (atHeader change rest) elements
      return Fields.insert key (.tables elements) entries

/-- Define a dotted key in a table that is open to new keys or not. On the way, a missing table is
made and open, one made by dotted keys is open, and an implied one is not; neither is the last
element of an array of tables. There is no way through a table with a header of its own. -/
def define (value : Value) : Bool → List String → Entries → Option Entries
  | _, [], _ => none
  | isOpen, [key], entries =>
    if isOpen && !Fields.has key entries then some (Fields.insert key (.value value) entries)
    else none
  | _, key :: next :: rest, entries =>
    match Fields.find? key entries with
    | none => do
      let inner ← define value true (next :: rest) []
      return Fields.insert key (.table .dotted inner) entries
    | some (.table .header _) => none
    | some (.table origin inner) => do
      let inner ← define value (origin == .dotted) (next :: rest) inner
      return Fields.insert key (.table origin inner) entries
    | some (.tables elements) => do
      let elements ← updateLast (define value false (next :: rest)) elements
      return Fields.insert key (.tables elements) entries
    | some (.value _) => none

/-- Give a table its header; only a table that was implied so far may exist. -/
def declareTable (key : String) (entries : Entries) : Option Entries :=
  match Fields.find? key entries with
  | none => some (Fields.insert key (.table .header []) entries)
  | some (.table .implied inner) => some (Fields.insert key (.table .header inner) entries)
  | _ => none

/-- Open one more element of an array of tables. -/
def addElement (key : String) (entries : Entries) : Option Entries :=
  match Fields.find? key entries with
  | none => some (Fields.insert key (.tables [[]]) entries)
  | some (.tables elements) => some (Fields.insert key (.tables (elements ++ [[]])) entries)
  | _ => none

/-- Apply a change that concerns the last key of a header to the table that holds it. -/
def atParent (change : String → Entries → Option Entries) (key : List String)
    (root : Entries) : Option Entries :=
  match key.getLast? with
  | none => none
  | some last => atHeader (change last) key.dropLast root

/-- Carry statements out one after another; the current header says where assignments go. -/
def carryOut : List Statement → List String → Entries → Option Entries
  | [], _, root => some root
  | .assign key value :: rest, current, root => do
    let root ← atHeader (define value true key) current root
    carryOut rest current root
  | .openTable key :: rest, _, root => do
    let root ← atParent declareTable key root
    carryOut rest key root
  | .openElement key :: rest, _, root => do
    let root ← atParent addElement key root
    carryOut rest key root

/-- The root table of a document. -/
def tableOf (statements : List Statement) : Option Entries := carryOut statements [] []

end Toml

end ValidatedStore
