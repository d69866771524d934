import ValidatedStore.Proofs.Schema.Built
import ValidatedStore.Proofs.Value.Places
import ValidatedStore.Proofs.Value.WellFormed

/-!
# Restoring a declared part

A declared part of an accepted value is an entry of an object, or the place of a missing one. So it
can always be restored, by a value or by its absence, and if the schema declared there accepts what
it becomes, the whole stays accepted. The induction is on the restoration: one field of every record
on the way changes, and all its other fields are accepted as before.
-/

namespace ValidatedStore

namespace Schema

variable {schema inner : Schema} {value : Value} {path : KeyPath} {replacement : Option Value}
  {fields : List (String × Schema)} {fallback : Value} {entries kept : List (String × Value)}
  {name : String}

/-- An accepted record whose field changes to something acceptable stays accepted. -/
theorem accepts_record_of_others (hd : Fields.Distinct fields)
    (ha : (record fields fallback).accepts (some (.object entries)) = true)
    (hf : Fields.find? name fields = some inner)
    (hself : inner.accepts (Fields.find? name kept) = true)
    (hothers : ∀ other, name ≠ other → Fields.find? other kept = Fields.find? other entries) :
    (record fields fallback).accepts (some (.object kept)) = true := by
  obtain ⟨entries', he, hkeys, hfields⟩ := accepts_record_iff.mp ha
  obtain rfl : entries = entries' := by simpa using he
  refine accepts_record_iff.mpr ⟨kept, rfl, fun key hm => ?_, fun field hm => ?_⟩
  · by_cases hkey : name = key
    · subst hkey
      exact Fields.mem_names_iff.mpr (by rw [hf]; rfl)
    · rw [Fields.mem_names_iff, hothers key hkey, ← Fields.mem_names_iff] at hm
      exact hkeys key hm
  · by_cases hfield : name = field.1
    · subst hfield
      obtain rfl : field.2 = inner := Option.some.inj ((Fields.find?_of_mem hd hm).symm.trans hf)
      exact hself
    · rw [hothers field.1 hfield]
      exact hfields field hm

/-- A restoration of a declared part by something acceptable there keeps the whole accepted. -/
theorem accepts_restores {restored : Value} (h : Value.Restores replacement value path restored)
    (hw : schema.WellFormed) (ha : schema.accepts (some value) = true)
    (hd : schema.declared path = .ok inner) (hr : inner.accepts replacement = true) :
    schema.accepts (some restored) = true := by
  induction h generalizing schema with
  | @here entries key hdistinct =>
    obtain ⟨fields, fallback, field, rfl, hf, hfield⟩ := declared_cons_eq_ok_iff.mp hd
    obtain rfl : field = inner := by simpa [declared] using hfield
    refine accepts_record_of_others hw.distinct ha hf ?_ fun other hne => ?_
    · rw [Fields.find?_assign_self hdistinct]
      exact hr
    · exact Fields.find?_assign_of_ne hne replacement
  | @inside container part restored key next rest hc _ ih =>
    obtain ⟨fields, fallback, field, rfl, hf, hrest⟩ := declared_cons_eq_ok_iff.mp hd
    obtain ⟨entries, he, _, hfields⟩ := accepts_record_iff.mp ha
    obtain rfl : container = .object entries := by simpa using he
    have hm := Fields.mem_of_find? hf
    have hfound : Fields.find? key entries = some part := Except.ok.inj hc
    have hpart := hfields _ hm
    dsimp only at hpart
    rw [hfound] at hpart
    refine accepts_record_of_others hw.distinct ha hf ?_ fun other hne => ?_
    · rw [Fields.find?_insert_self]
      exact ih (hw.field hm) hpart hrest
    · exact Fields.find?_insert_of_ne hne

/-- What a restoration of a declared part is to come to. -/
structure RestoredTo (schema : Schema) (path : KeyPath) (replacement : Option Value)
    (value restored : Value) : Prop where
  /-- The whole is accepted. -/
  accepted : schema.accepts (some restored) = true
  /-- The part is the replacement, or missing. -/
  at_path : restored.find path = .ok replacement
  /-- What neither leads to the part nor stands below it is the same, faults included. -/
  elsewhere : ∀ other, path.Apart other → restored.find other = value.find other

/-- Every declared part of an accepted value can be restored by what is acceptable there, absence
included unless it is the whole. -/
theorem exists_restoredTo (hw : schema.WellFormed) (hv : value.WellFormed)
    (ha : schema.accepts (some value) = true) (hd : schema.declared path = .ok inner)
    (hr : inner.accepts replacement = true) (hroot : path = [] → replacement ≠ none) :
    ∃ restored, value.restore path replacement = .ok restored ∧
      schema.RestoredTo path replacement value restored := by
  cases path using List.reverseRecOn with
  | nil =>
    obtain ⟨new, rfl⟩ := Option.ne_none_iff_exists'.mp (hroot rfl)
    obtain rfl : schema = inner := by simpa [declared] using hd
    exact ⟨new, rfl, hr, rfl, fun other hapart => absurd hapart KeyPath.not_apart_nil⟩
  | append_singleton parent key =>
    obtain ⟨entries, hobject⟩ := find_object_of_declared ha hd
    have hstands : value.StandsInObject (parent ++ [key]) :=
      ⟨parent, key, entries, rfl, hobject, (Value.wellFormed_object.mp (hv.find hobject)).1⟩
    obtain ⟨restored, hrestored, hrestores⟩ := Value.exists_restore hstands replacement
    exact ⟨restored, hrestored, accepts_restores hrestores hw ha hd hr, hrestores.find_self,
      fun _ hapart => hrestores.find_of_apart hapart⟩

end Schema

end ValidatedStore
