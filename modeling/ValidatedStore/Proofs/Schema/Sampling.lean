import ValidatedStore.Proofs.Schema.Inferring
import ValidatedStore.Proofs.Schema.Reports
import ValidatedStore.Proofs.Schema.Templates

/-!
# A sample repairs like the schema inferred from it

A store that is opened with a default alone validates by the schema inferred from it, and repairs
from the default itself. The two walk differently: the schema declares fields and enters no array,
the sample has items of arrays as well. They have the same for every declared path, and nothing for
a key that a declared record lacks. Only at such places can a value fail, so that both lead every
repair to the same accepted value.
-/

namespace ValidatedStore

namespace Schema

variable {schema inner : Schema} {sample value : Value} {part : Option Value} {path : KeyPath}

/-- At a declared path the sample has the default of what is declared. -/
theorem defaultAt_eq_of_declared (hw : sample.WellFormed) (h : ofExample sample = .ok schema)
    (hd : schema.declared path = .ok inner) :
    (Template.sample sample).defaultAt path = (Template.schema schema).defaultAt path := by
  have hfound := (mirrors_of_ofExample hw h).declared path inner hd
  rw [Template.defaultAt, Template.defaultAt, hd, hfound]

/-- Where a value, or its absence, offends against the inferred schema, the sample and the schema
have the same. -/
theorem defaultAt_eq_of_offends (hw : sample.WellFormed) (h : ofExample sample = .ok schema)
    (ho : schema.Offends part path) :
    (Template.sample sample).defaultAt path = (Template.schema schema).defaultAt path := by
  cases ho with
  | rejected _ hd _ _ => exact defaultAt_eq_of_declared hw h hd
  | undeclared _ hd _ _ hno =>
    have hsample := Template.fits_sample (accepts_self_of_ofExample hw h)
    have hschema := Template.fits_schema (built_ofExample h).wellFormed
    rw [hsample.undeclared hd hno, hschema.undeclared hd hno]

/-- From every sample a schema is inferred such that, wherever a value fails it, the sample and the
schema have the same for the place. Repairing the value from the one or from the other succeeds with
the same result, and that is accepted. -/
theorem sample_repairs_as_schema (hw : sample.WellFormed) :
    ∃ schema, infer (some sample) = .ok schema ∧ ∀ value : Value, value.WellFormed →
      (∀ path ∈ (schema.validate (some value)).paths,
        (Template.sample sample).defaultAt path = (Template.schema schema).defaultAt path) ∧
      ∃ repaired,
        value.repair (.sample sample) (schema.validate (some value)).paths = .ok repaired ∧
        value.repair (.schema schema) (schema.validate (some value)).paths = .ok repaired ∧
        schema.accepts (some repaired) = true := by
  obtain ⟨schema, hs⟩ := exists_ofExample hw
  have hschema := (built_ofExample hs).wellFormed
  have hroot : (Template.schema schema).defaultAt KeyPath.root = some sample :=
    default_ofExample hs
  refine ⟨schema, hs, fun value hv => ?_⟩
  rw [validate, Verdict.paths_ofPaths]
  have hagree : ∀ path ∈ schema.failures (some value),
      (Template.sample sample).defaultAt path = (Template.schema schema).defaultAt path :=
    fun path hm => defaultAt_eq_of_offends hw hs (offends_of_mem_failures hschema hm)
  obtain ⟨repaired, hr, ha, -⟩ := Value.exists_repair hschema (Template.fits_schema hschema)
    (fun _ => by rw [hroot]; exact accepts_self_of_ofExample hw hs) hv
  have hsame : value.repair (.sample sample) (schema.failures (some value)) = .ok repaired := by
    rw [Value.repair_eq_restoreAll, Value.restoreAll_congr hagree, ← Value.repair_eq_restoreAll, hr]
  exact ⟨hagree, repaired, hsame, hr, ha⟩

/-- A room with a text for the switch of its lamp, an unknown key and a tag that no sample has is
repaired from a sample as from the schema of the sample: the switch is set as there, the key is
dropped, and the list of tags is replaced as a whole. -/
theorem sample_repairs_as_schema_of_lamp :
    ∃ (sample value repaired : Value) (schema : Schema), sample.WellFormed ∧ value.WellFormed ∧
      infer (some sample) = .ok schema ∧
      (schema.validate (some value)).paths = [["x"], ["tags"], ["lamp", "on"]] ∧
      (∀ path ∈ (schema.validate (some value)).paths,
        (Template.sample sample).defaultAt path = (Template.schema schema).defaultAt path) ∧
      value.repair (.sample sample) (schema.validate (some value)).paths = .ok repaired ∧
      value.repair (.schema schema) (schema.validate (some value)).paths = .ok repaired ∧
      schema.accepts (some repaired) = true ∧
      repaired = .object [("lamp", .object [("on", .bool true)]), ("tags", .array [.null])] := by
  let sample : Value := .object [("tags", .array [.null]), ("lamp", .object [("on", .bool true)])]
  let value : Value := .object [("lamp", .object [("on", .string "yes")]), ("x", .null),
    ("tags", .array [.null, .bool true])]
  have hw : sample.WellFormed := by
    simp [sample, Value.WellFormed, Value.WellFormedEntries, Value.WellFormedItems, Fields.Distinct]
  have hv : value.WellFormed := by
    simp [value, Value.WellFormed, Value.WellFormedEntries, Value.WellFormedItems, Fields.Distinct]
  obtain ⟨schema, hs, hall⟩ := sample_repairs_as_schema hw
  obtain ⟨hagree, repaired, hsample, hschema, ha⟩ := hall value hv
  have hinferred : infer (some sample) = .ok (.record
      [("tags", .list (.union [.nullable true false] (some .null)) (.array [.null])),
        ("lamp", .record [("on", .boolean (.bool true))] (.object [("on", .bool true)]))]
      sample) := rfl
  obtain rfl := Except.ok.inj (hinferred.symm.trans hs)
  have hrepaired := Except.ok.inj (hsample.symm.trans rfl)
  exact ⟨sample, value, repaired, _, hw, hv, hs, by decide, hagree, hsample, hschema, ha, hrepaired⟩

end Schema

end ValidatedStore
