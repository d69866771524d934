import ValidatedStore.Proofs.Schema.Repairing

/-!
# Templates that fit their schema

A schema's own defaults fit it, and so does every sample value that it accepts: at a declared
path the sample has something acceptable, and at a key that a record lacks it has nothing. Both
kinds of template therefore lead every repair to an accepted value, provided that what replaces a
whole value is accepted.
-/

namespace ValidatedStore

variable {schema : Schema} {value : Value}

namespace Template

/-- The defaults of a well-formed schema fit it. -/
theorem fits_schema (hw : schema.WellFormed) : schema.Fits (Template.schema schema).defaultAt where
  accepted {path inner} hd := by
    rw [defaultAt, hd]
    exact (hw.declared hd).accepts_default
  undeclared {path fields fallback key} hd hk := by
    rw [defaultAt]
    cases hd' : schema.declared (path ++ [key]) with
    | ok inner =>
      rw [(Schema.declared_append_singleton hd).mp hd'] at hk
      cases hk
    | error fault => rfl

/-- A sample that a schema accepts fits it. -/
theorem fits_sample {sample : Value} (ha : schema.accepts (some sample) = true) :
    schema.Fits (Template.sample sample).defaultAt where
  accepted {path inner} hd := by
    obtain ⟨found, hf, hi⟩ := Schema.find_declared ha hd
    rw [defaultAt, hf]
    exact hi
  undeclared {path fields fallback key} hd hk := by
    obtain ⟨found, hf, hi⟩ := Schema.find_declared ha hd
    obtain ⟨entries, rfl, hkeys, _⟩ := Schema.accepts_record_iff.mp hi
    have hnone : Fields.find? key entries = none := by
      rw [Fields.find?_eq_none_iff]
      exact fun hm => Fields.find?_eq_none_iff.mp hk (hkeys key hm)
    rw [defaultAt, Value.find_append_singleton hf, hnone]

end Template

/-- A repair from a fitting template ends in an accepted value, if the template's content for the
root, or null for its lack, is accepted wherever the value fails as a whole. Elsewhere it restores
the value at its failures. -/
theorem Value.exists_repair {template : Template} (hw : schema.WellFormed)
    (hfits : schema.Fits template.defaultAt)
    (hroot : KeyPath.root ∈ schema.failures (some value) →
      schema.accepts (some ((template.defaultAt KeyPath.root).getD .null)) = true)
    (hv : value.WellFormed) :
    ∃ repaired, value.repair template (schema.failures (some value)) = .ok repaired ∧
      schema.accepts (some repaired) = true ∧
      (KeyPath.root ∉ schema.failures (some value) →
        value.RestoredAt template.defaultAt (schema.failures (some value)) repaired) := by
  rw [Value.repair_eq_restoreAll]
  exact Schema.exists_restoreAll hw hfits hroot hv

/-- The repair of a value that fails as a whole is what the template has for the root, or null. -/
theorem Value.repair_root {template : Template} :
    value.repair template [KeyPath.root] =
      .ok ((template.defaultAt KeyPath.root).getD .null) := by
  rw [Value.repair]
  cases template.defaultAt KeyPath.root <;> rfl

end ValidatedStore
