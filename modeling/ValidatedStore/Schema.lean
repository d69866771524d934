import ValidatedStore.Access
import ValidatedStore.Pattern.Reader
import ValidatedStore.Pattern.Search

/-!
# Schemas

A schema describes which values are acceptable and carries a default with which an unacceptable
value is replaced. A value may also be absent, which differs from null: a missing field is absent.
-/

namespace ValidatedStore

/-- Which texts a schema accepts. -/
structure TextRule where
  /-- The least number of characters. -/
  minLength : Nat
  /-- The greatest number of characters, if there is one. -/
  maxLength : Option Nat
  /-- A pattern that has to occur in the text, if there is one. -/
  pattern : Option Pattern

/-- Which numbers a schema accepts. -/
structure NumberRule where
  /-- The lower bound, which is accepted. -/
  min : Binary64.Extended
  /-- The upper bound, which is accepted. -/
  max : Binary64.Extended
  /-- Whether numbers with a fractional part are refused. -/
  integral : Bool

/-- A schema. -/
inductive Schema
  /-- Every value, and absence. -/
  | any (fallback : Value)
  /-- Truth values. -/
  | boolean (fallback : Value)
  /-- Texts under a rule. -/
  | string (rule : TextRule) (fallback : Value)
  /-- Numbers under a rule. -/
  | number (rule : NumberRule) (fallback : Value)
  /-- The null value, absence, or both. -/
  | nullable (null absent : Bool)
  /-- Any object. -/
  | openRecord (fallback : Value)
  /-- Objects with declared fields and no others. -/
  | record (fields : List (String × Schema)) (fallback : Value)
  /-- Arrays whose items all satisfy one schema. -/
  | list (item : Schema) (fallback : Value)
  /-- Whatever one of the members accepts. -/
  | union (members : List Schema) (fallback : Option Value)

/-- The word for a kind of schema in messages. -/
def Schema.kindName : Schema → String
  | .any _ => "any"
  | .boolean _ => "boolean"
  | .string _ _ => "string"
  | .number _ _ => "number"
  | .nullable _ _ => "nullable"
  | .openRecord _ => "dictionary"
  | .record _ _ => "dictionary"
  | .list _ _ => "list"
  | .union _ _ => "union"

/-- The default of a schema; none stands for absence. -/
def Schema.default? : Schema → Option Value
  | .any fallback => some fallback
  | .boolean fallback => some fallback
  | .string _ fallback => some fallback
  | .number _ fallback => some fallback
  | .nullable null _ => if null then some .null else none
  | .openRecord fallback => some fallback
  | .record _ fallback => some fallback
  | .list _ fallback => some fallback
  | .union _ fallback => fallback

/-- The schema of a field that the root declares. -/
def Schema.field? (name : String) : Schema → Option Schema
  | .record fields _ => Fields.find? name fields
  | _ => none

/-- Why a schema declares nothing at a path. -/
inductive DeclarationFault
  /-- The keys up to this depth name no declared field. -/
  | undeclared (depth : Nat)
  /-- At this depth stands a schema that declares no fields. -/
  | noFields (kindName : String) (depth : Nat)
deriving DecidableEq

namespace DeclarationFault

/-- The fault seen from the schema around the one where the walk began. -/
def below : DeclarationFault → DeclarationFault
  | .undeclared depth => .undeclared (depth + 1)
  | .noFields kindName depth => .noFields kindName (depth + 1)

/-- The fault in words, for a walk along the given path. -/
def reason (path : KeyPath) : DeclarationFault → String
  | .undeclared depth => "'" ++ KeyPath.text (path.take depth) ++ "' is not declared"
  | .noFields kindName depth =>
    kindName ++ " type at '" ++ KeyPath.text (path.take depth) ++ "' declares no fields"

/-- The message about a path at which nothing is declared. -/
def message (path : KeyPath) (fault : DeclarationFault) : String :=
  "invalid path '" ++ path.text ++ "': " ++ fault.reason path

end DeclarationFault

/-- The schema declared at a path; only declared fields are entered. -/
def Schema.declared : Schema → KeyPath → Except DeclarationFault Schema
  | schema, [] => .ok schema
  | .record fields _, key :: rest =>
    match Fields.find? key fields with
    | some inner => (inner.declared rest).mapError DeclarationFault.below
    | none => .error (.undeclared 1)
  | schema, _ :: _ => .error (.noFields schema.kindName 0)

/-- Whether a path names a declared schema. -/
def Schema.declares (schema : Schema) (path : KeyPath) : Bool := (schema.declared path).isOk

end ValidatedStore
