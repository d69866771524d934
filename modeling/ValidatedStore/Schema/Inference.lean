import ValidatedStore.Schema.Draft

/-!
# Inference

An example value gives the schema of its shape, with the example as the default: scalars of the
same kind, arrays whose items each look like some item of the example, and objects with exactly
the example's keys.
-/

namespace ValidatedStore

namespace Schema

mutual

/-- The schema of the shape of a value. -/
def ofExample : Value → Except SchemaError Schema
  | .null => NullableDraft.build ⟨true, false⟩
  | .bool b => buildBoolean (some (.bool b))
  | .string s => TextDraft.build { fallback := some (.string s) }
  | .number n => NumberDraft.build { fallback := some (.number n) }
  | .array items => do
    let members ← ofItems items
    let item ← if members.isEmpty then buildAny none else buildUnion members none
    buildList item (some (.array items))
  | .object entries => do
    let fields ← ofEntries entries
    RecordDraft.build (RecordDraft.declareAll fields { fallback := some (.object entries) })

/-- The schemas of the items of an example. -/
def ofItems : List Value → Except SchemaError (List Schema)
  | [] => .ok []
  | item :: rest => do
    let schema ← ofExample item
    let schemas ← ofItems rest
    return schema :: schemas

/-- The schemas of the entries of an example. -/
def ofEntries : List (String × Value) → Except SchemaError (List (String × Schema))
  | [] => .ok []
  | (name, value) :: rest => do
    let schema ← ofExample value
    let fields ← ofEntries rest
    return (name, schema) :: fields

end

/-- The schema inferred from an example that may be absent. -/
def infer : Option Value → Except SchemaError Schema
  | none => NullableDraft.build ⟨false, true⟩
  | some value => ofExample value

end Schema

end ValidatedStore
