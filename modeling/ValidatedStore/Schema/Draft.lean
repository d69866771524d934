import ValidatedStore.Schema.Validation

/-!
# Drafts of schemas

A draft collects the options of one kind of schema. Building it checks the options, fills in the
default, and refuses a schema whose own default it does not accept.
-/

namespace ValidatedStore

/-- Why a draft makes no schema. -/
inductive SchemaError
  /-- The default fails the schema at these places. -/
  | invalidDefault (paths : List KeyPath)
  /-- The greatest length lies below the least. -/
  | lengthBounds (max min : Nat)
  /-- The text is no pattern. -/
  | badPattern (source : String)
  /-- No number lies between the bounds, or one of them is undefined. -/
  | numberBounds (min max : Binary64.Extended)
  /-- Neither null nor absence would be accepted. -/
  | acceptsNothing
  /-- A union without members. -/
  | noMembers

/-- The error in words. A pattern is quoted without the reason why it is none. -/
def SchemaError.message : SchemaError → String
  | .invalidDefault paths => "default value is invalid at " ++ KeyPath.shownList paths
  | .lengthBounds max min =>
    "invalid schema options: max_length " ++ toString max ++ " is below min_length " ++
      toString min
  | .badPattern source => "invalid schema options: invalid pattern '" ++ source ++ "'"
  | .numberBounds min max =>
    "invalid schema options: number bounds [" ++ String.ofList (Layout.plain.extendedText min) ++
      ", " ++ String.ofList (Layout.plain.extendedText max) ++ "] are empty"
  | .acceptsNothing => "invalid schema options: nullable type must accept null or absence"
  | .noMembers => "invalid schema options: union needs at least one member"

namespace Schema

/-- The schema itself, if it accepts its own default. -/
def checked (schema : Schema) : Except SchemaError Schema :=
  match schema.failures schema.default? with
  | [] => .ok schema
  | path :: paths => .error (.invalidDefault (path :: paths))

/-- A schema of all values, with null as the default. -/
def buildAny (fallback : Option Value) : Except SchemaError Schema :=
  (Schema.any (fallback.getD .null)).checked

/-- A schema of truth values, with false as the default. -/
def buildBoolean (fallback : Option Value) : Except SchemaError Schema :=
  (Schema.boolean (fallback.getD (.bool false))).checked

/-- A schema of arrays, with the empty array as the default. -/
def buildList (item : Schema) (fallback : Option Value) : Except SchemaError Schema :=
  (Schema.list item (fallback.getD (.array []))).checked

/-- A schema of alternatives, with the default of the first member. -/
def buildUnion (members : List Schema) (fallback : Option Value) : Except SchemaError Schema :=
  match members with
  | [] => .error .noMembers
  | first :: _ => (Schema.union members (fallback.or first.default?)).checked

/-- The object of the defaults of fields; a field whose default is absent is left out. -/
def defaultEntries (fields : Fields Schema) : Fields Value :=
  fields.filterMap fun field => field.2.default?.map fun value => (field.1, value)

end Schema

/-- Options of a schema of texts. -/
structure TextDraft where
  /-- The least number of characters. -/
  minLength : Nat := 0
  /-- The greatest number of characters, if there is one. -/
  maxLength : Option Nat := none
  /-- The text of a pattern that has to occur, if there is one. -/
  pattern : Option String := none
  /-- The default; the empty text unless given. -/
  fallback : Option Value := none

/-- The schema of a draft. -/
def TextDraft.build (draft : TextDraft) : Except SchemaError Schema :=
  let finish (pattern : Option Pattern) :=
    (Schema.string ⟨draft.minLength, draft.maxLength, pattern⟩
      (draft.fallback.getD (.string ""))).checked
  let finishPattern :=
    match draft.pattern with
    | none => finish none
    | some source =>
      match Pattern.ofSource? source with
      | none => .error (.badPattern source)
      | some pattern => finish (some pattern)
  match draft.maxLength with
  | none => finishPattern
  | some max =>
    if max < draft.minLength then .error (.lengthBounds max draft.minLength) else finishPattern

/-- Options of a schema of numbers. -/
structure NumberDraft where
  /-- The lower bound. -/
  min : Binary64.Extended := .infinite true
  /-- The upper bound. -/
  max : Binary64.Extended := .infinite false
  /-- Whether numbers with a fractional part are refused. -/
  integral : Bool := false
  /-- The default; zero unless given. -/
  fallback : Option Value := none

/-- The schema of a draft. -/
def NumberDraft.build (draft : NumberDraft) : Except SchemaError Schema :=
  if draft.min.le draft.max then
    (Schema.number ⟨draft.min, draft.max, draft.integral⟩ (draft.fallback.getD .zero)).checked
  else .error (.numberBounds draft.min draft.max)

/-- Options of a schema of null and absence. -/
structure NullableDraft where
  /-- Whether null is accepted. -/
  null : Bool := true
  /-- Whether absence is accepted. -/
  absent : Bool := true

/-- The schema of a draft. -/
def NullableDraft.build (draft : NullableDraft) : Except SchemaError Schema :=
  if draft.null || draft.absent then (Schema.nullable draft.null draft.absent).checked
  else .error .acceptsNothing

/-- Options of a schema of objects. -/
structure RecordDraft where
  /-- The declared fields; none accepts any object. -/
  fields : Option (Fields Schema) := none
  /-- The default; the object of the fields' defaults unless given. -/
  fallback : Option Value := none

namespace RecordDraft

/-- Declare a field. A name declared before keeps its place and takes the new schema. -/
def declare (name : String) (schema : Schema) (draft : RecordDraft) : RecordDraft :=
  { draft with fields := some (Fields.insert name schema (draft.fields.getD [])) }

/-- Declare fields one after another; an empty list still closes the record. -/
def declareAll (fields : List (String × Schema)) (draft : RecordDraft) : RecordDraft :=
  { draft with fields := some (Fields.insertAll (draft.fields.getD []) fields) }

/-- The schema of a draft. -/
def build (draft : RecordDraft) : Except SchemaError Schema :=
  match draft.fields with
  | none => (Schema.openRecord (draft.fallback.getD (.object []))).checked
  | some fields =>
    (Schema.record fields (draft.fallback.getD (.object (Schema.defaultEntries fields)))).checked

end RecordDraft

end ValidatedStore
