import ValidatedStore.Fields
import ValidatedStore.Number

/-!
# JSON values

Values are finite trees; an object keeps the order in which its keys were first written. The tree
type admits repeated keys, and `Value.WellFormed` says that none occurs: the reader produces only
such values and every operation keeps them so.
-/

namespace ValidatedStore

/-- A JSON value. -/
inductive Value
  /-- The null value. -/
  | null
  /-- A truth value. -/
  | bool (value : Bool)
  /-- A number. -/
  | number (value : Number)
  /-- A text. -/
  | string (value : String)
  /-- A sequence of values. -/
  | array (items : List Value)
  /-- An object with its entries in order. -/
  | object (entries : List (String × Value))

instance : Inhabited Value := ⟨.null⟩

/-- The six kinds of values. -/
inductive Kind
  /-- The kind of the null value. -/
  | null
  /-- The kind of the truth values. -/
  | boolean
  /-- The kind of numbers. -/
  | number
  /-- The kind of texts. -/
  | string
  /-- The kind of sequences. -/
  | array
  /-- The kind of objects. -/
  | object
deriving DecidableEq

/-- The word for a kind in messages. -/
def Kind.name : Kind → String
  | .null => "null"
  | .boolean => "boolean"
  | .number => "number"
  | .string => "string"
  | .array => "array"
  | .object => "object"

namespace Value

/-- The kind of a value. -/
def kind : Value → Kind
  | .null => .null
  | .bool _ => .boolean
  | .number _ => .number
  | .string _ => .string
  | .array _ => .array
  | .object _ => .object

/-- The number zero. -/
def zero : Value := .number .zero

/-- A natural number as a value, unless it exceeds 64 bits. -/
def ofNat? (n : Nat) : Option Value := (Number.ofInt? n).map .number

mutual

/-- No object in the value has a repeated key. -/
def WellFormed : Value → Prop
  | .array items => WellFormedItems items
  | .object entries => Fields.Distinct entries ∧ WellFormedEntries entries
  | _ => True

/-- Every value of a sequence is well formed. -/
def WellFormedItems : List Value → Prop
  | [] => True
  | item :: rest => WellFormed item ∧ WellFormedItems rest

/-- Every value of an entry list is well formed. -/
def WellFormedEntries : List (String × Value) → Prop
  | [] => True
  | (_, value) :: rest => WellFormed value ∧ WellFormedEntries rest

end

mutual

/-- The number of containers around the innermost value. -/
def depth : Value → Nat
  | .array items => depthOfItems items + 1
  | .object entries => depthOfEntries entries + 1
  | _ => 0

/-- The greatest depth in a sequence. -/
def depthOfItems : List Value → Nat
  | [] => 0
  | item :: rest => max (depth item) (depthOfItems rest)

/-- The greatest depth in an entry list. -/
def depthOfEntries : List (String × Value) → Nat
  | [] => 0
  | (_, value) :: rest => max (depth value) (depthOfEntries rest)

end

end Value

end ValidatedStore
