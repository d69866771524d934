import ValidatedStore.Schema.Validation

/-!
# Repair

A value that fails at some places is repaired from a template, place by place: what the template
has for the place is written there, and where the template has nothing the place is removed. The
template is a schema with the defaults of its fields, or a sample value.
-/

namespace ValidatedStore

/-- Where the defaults of places come from. -/
inductive Template
  /-- The defaults of the schemas declared at the places. -/
  | schema (schema : Schema)
  /-- What stands at the places in a sample value. -/
  | sample (value : Value)

/-- What belongs at a place; none says that nothing does. -/
def Template.defaultAt (template : Template) (path : KeyPath) : Option Value :=
  match template with
  | .schema whole =>
    match whole.declared path with
    | .ok inner => inner.default?
    | .error _ => none
  | .sample value =>
    match value.find path with
    | .ok found => found
    | .error _ => none

namespace Value

/-- The value with another one at a path, which is the whole value at the root. -/
def overwrite (value : Value) (path : KeyPath) (new : Value) : Except PathFault Value :=
  match path with
  | [] => .ok new
  | key :: rest => value.set (key :: rest) new

/-- The value without what stands at a path; the whole value becomes null. -/
def clear (value : Value) (path : KeyPath) : Except PathFault Value :=
  match path with
  | [] => .ok .null
  | key :: rest => (value.delete (key :: rest)).map Prod.fst

/-- The value with a replacement at a path, or with nothing there. -/
def restore (value : Value) (path : KeyPath) : Option Value → Except PathFault Value
  | some replacement => value.overwrite path replacement
  | none => value.clear path

/-- The value with the template's content at every one of a list of paths, in order. A path that
cannot be reached ends the repair and is returned with the fault. -/
def repair (template : Template) : Value → List KeyPath → Except (KeyPath × PathFault) Value
  | value, [] => .ok value
  | value, path :: rest =>
    match value.restore path (template.defaultAt path) with
    | .ok restored => repair template restored rest
    | .error fault => .error (path, fault)

end Value

end ValidatedStore
