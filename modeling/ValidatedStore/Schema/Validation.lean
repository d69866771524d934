import ValidatedStore.Schema

/-!
# Validation

Validation lists the places at which a value fails a schema, relative to the value; the value is
accepted when the list is empty. A record names its undeclared keys in the value's order and then
the failures of its fields in the order of declaration. Every other kind of schema fails as a
whole, at the root: a list with one bad item, and a union none of whose members accepts.
-/

namespace ValidatedStore

/-- Whether a text satisfies a rule; its length is counted in characters. -/
def TextRule.accepts (rule : TextRule) (s : String) : Bool :=
  let length := s.toList.length
  decide (rule.minLength ≤ length) && rule.maxLength.all (fun most => decide (length ≤ most)) &&
    rule.pattern.all (fun pattern => pattern.node.occursIn s)

/-- Whether a number satisfies a rule; a whole number is compared as the nearest double. -/
def NumberRule.accepts (rule : NumberRule) (n : Number) : Bool :=
  let x := n.toExtended
  rule.min.le x && x.le rule.max && (!rule.integral || x.isIntegral)

namespace Schema

/-- Failure at the root, unless a condition holds. -/
def rootUnless (accepted : Bool) : List KeyPath := if accepted then [] else [KeyPath.root]

/-- The keys of an object that no field declares, in the object's order. -/
def undeclaredKeys (fields : List (String × Schema)) (entries : Fields Value) : List String :=
  (Fields.names entries).filter fun key => !Fields.has key fields

mutual

/-- The places at which a value, or its absence, fails a schema. -/
def failures : Schema → Option Value → List KeyPath
  | .any _, _ => []
  | .boolean _, value => rootUnless (match value with | some (.bool _) => true | _ => false)
  | .string rule _, value =>
    rootUnless (match value with | some (.string s) => rule.accepts s | _ => false)
  | .number rule _, value =>
    rootUnless (match value with | some (.number n) => rule.accepts n | _ => false)
  | .nullable null absent, value =>
    rootUnless (match value with | none => absent | some .null => null | some _ => false)
  | .openRecord _, value =>
    rootUnless (match value with | some (.object _) => true | _ => false)
  | .record fields _, value =>
    match value with
    | some (.object entries) =>
      (undeclaredKeys fields entries).map (fun key => [key]) ++ fieldFailures fields entries
    | _ => [KeyPath.root]
  | .list item _, value =>
    rootUnless (match value with
      | some (.array items) => items.all fun element => (failures item (some element)).isEmpty
      | _ => false)
  | .union members _, value => rootUnless (someAccepts members value)

/-- The failures of declared fields, each below the name of its field. -/
def fieldFailures : List (String × Schema) → Fields Value → List KeyPath
  | [], _ => []
  | (name, schema) :: rest, entries =>
    (failures schema (Fields.find? name entries)).map (name :: ·) ++ fieldFailures rest entries

/-- Whether some schema of a list accepts a value. -/
def someAccepts : List Schema → Option Value → Bool
  | [], _ => false
  | schema :: rest, value => (failures schema value).isEmpty || someAccepts rest value

end

/-- Whether a value, or its absence, is accepted. -/
def accepts (schema : Schema) (value : Option Value) : Bool := (schema.failures value).isEmpty

end Schema

/-- What a validation says. -/
inductive Verdict
  /-- The value satisfies the schema. -/
  | valid
  /-- The value fails the schema at these places. -/
  | invalid (paths : List KeyPath)
deriving DecidableEq

namespace Verdict

/-- The verdict on a value that fails at the listed places. -/
def ofPaths (paths : List KeyPath) : Verdict := if paths.isEmpty then .valid else .invalid paths

/-- The failing places; a valid value has none. -/
def paths : Verdict → List KeyPath
  | .valid => []
  | .invalid paths => paths

end Verdict

/-- The verdict of a schema on a value, or on its absence. -/
def Schema.validate (schema : Schema) (value : Option Value) : Verdict :=
  .ofPaths (schema.failures value)

end ValidatedStore
