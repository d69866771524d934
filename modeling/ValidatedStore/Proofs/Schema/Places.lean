import ValidatedStore.Proofs.Schema.Templates
import ValidatedStore.Proofs.Schema.Writing
import ValidatedStore.Proofs.Value.Places

/-!
# What a repair by a schema comes to

A repair by the defaults of a schema puts the declared default in every declared place at which a
value fails, drops every undeclared key, and leaves what stands apart from these places and the
order of the keys as they are. A value that fails as a whole becomes the default.
-/

namespace ValidatedStore

namespace Schema

variable {schema : Schema} {value fallback repaired : Value}

/-- What the repair of a value by the defaults of a schema is to come to. -/
structure RepairedTo (schema : Schema) (value repaired : Value) : Prop where
  /-- The result is accepted. -/
  accepted : schema.accepts (some repaired) = true
  /-- A value that fails as a whole becomes the default. -/
  whole : schema.failures (some value) = [KeyPath.root] → schema.default? = some repaired
  /-- A declared place has the default declared there, or nothing where that is absent. -/
  declared : ∀ path ∈ schema.failures (some value), ∀ inner,
    schema.declared path = .ok inner → repaired.find path = .ok inner.default?
  /-- An undeclared place has nothing. -/
  undeclared : ∀ path ∈ schema.failures (some value),
    schema.declares path = false → repaired.find path = .ok none
  /-- What leads to no place and stands at none or below one is the same, faults included. -/
  elsewhere : ∀ path, (∀ place ∈ schema.failures (some value), place.Apart path) →
    repaired.find path = value.find path
  /-- Objects that are not at a place or below one keep their keys in order, but for the places. -/
  order : ∀ path entries,
    (∀ place ∈ schema.failures (some value), place.isAncestorOf path = false) →
    value.find path = .ok (some (.object entries)) →
    ∃ kept, repaired.find path = .ok (some (.object kept)) ∧
      Fields.KeepsOrder (fun key => path ++ [key] ∈ schema.failures (some value))
        (Fields.names entries) (Fields.names kept)

/-- The default is what the repair of a value that fails as a whole is to come to. -/
theorem repairedTo_of_root_mem (hroot : KeyPath.root ∈ schema.failures (some value))
    (hd : schema.default? = some fallback) (ha : schema.accepts (some fallback) = true) :
    schema.RepairedTo value fallback := by
  have honly : ∀ path ∈ schema.failures (some value), path = KeyPath.root := by
    rw [failures_eq_of_root_mem hroot]
    exact fun path => List.mem_singleton.mp
  refine ⟨ha, fun _ => hd, fun path hm inner hi => ?_, fun path hm hi => ?_, fun path hpath => ?_,
    fun path entries hpath _ => ?_⟩
  · obtain rfl := honly path hm
    obtain rfl : schema = inner := Except.ok.inj hi
    rw [hd]
    rfl
  · obtain rfl := honly path hm
    cases hi
  · exact absurd (hpath _ hroot) KeyPath.not_apart_nil
  · exact Bool.noConfusion (hpath _ hroot)

/-- What single restorations come to when a value does not fail as a whole. -/
theorem repairedTo_of_restoredAt (hroot : KeyPath.root ∉ schema.failures (some value))
    (ha : schema.accepts (some repaired) = true)
    (hr : value.RestoredAt (Template.schema schema).defaultAt (schema.failures (some value))
      repaired) :
    schema.RepairedTo value repaired where
  accepted := ha
  whole hfail := absurd (hfail ▸ List.mem_singleton_self _) hroot
  declared path hm inner hd := by
    rw [hr.at_places path hm, Template.defaultAt, hd]
  undeclared path hm hd := by
    rw [hr.at_places path hm, Template.defaultAt]
    rw [declares] at hd
    cases hi : schema.declared path with
    | ok inner => rw [hi] at hd; cases hd
    | error fault => rfl
  elsewhere := hr.elsewhere
  order path entries ha hf := by
    obtain ⟨kept, hk, _, ho⟩ := hr.objects path entries ha hf
    exact ⟨kept, hk, ho⟩

/-- Every repair of a well-formed value by the defaults of a built schema succeeds and comes to
that, if the schema has a default for the whole. -/
theorem exists_repairedTo (hb : schema.Built) (hd : schema.default? = some fallback)
    (hv : value.WellFormed) :
    ∃ repaired, value.repair (.schema schema) (schema.failures (some value)) = .ok repaired ∧
      schema.RepairedTo value repaired := by
  have hw := hb.wellFormed
  have hwhole : (Template.schema schema).defaultAt KeyPath.root = some fallback := hd
  have hdefault : schema.accepts (some fallback) = true := hd ▸ hw.accepts_default
  obtain ⟨repaired, hr, ha, hrestored⟩ := Value.exists_repair hw (Template.fits_schema hw)
    (fun _ => by rw [hwhole]; exact hdefault) hv
  refine ⟨repaired, hr, ?_⟩
  by_cases hroot : KeyPath.root ∈ schema.failures (some value)
  · rw [failures_eq_of_root_mem hroot, Value.repair_root, hwhole] at hr
    obtain rfl : fallback = repaired := Except.ok.inj hr
    exact repairedTo_of_root_mem hroot hd hdefault
  · exact repairedTo_of_restoredAt hroot ha (hrestored hroot)

/-- In a room an unknown key is dropped, the lamp is switched off, and what may only be missing is
removed. -/
theorem exists_repairedTo_of_room :
    ∃ (value fallback repaired : Value), roomSchema.Built ∧ roomSchema.default? = some fallback ∧
      value.WellFormed ∧
      roomSchema.failures (some value) = [["x"], ["lamp", "on"], ["lamp", "broken"]] ∧
      value.repair (.schema roomSchema) (roomSchema.failures (some value)) = .ok repaired ∧
      repaired = .object [("lamp", .object [("on", .bool false)])] ∧
      roomSchema.RepairedTo value repaired := by
  let value : Value := .object [("x", .null),
    ("lamp", .object [("broken", .bool true), ("on", .string "yes")])]
  have hv : value.WellFormed := by
    simp [value, Value.WellFormed, Value.WellFormedEntries, Fields.Distinct]
  obtain ⟨repaired, hr, hto⟩ := exists_repairedTo built_roomSchema rfl hv
  have hfailures : roomSchema.failures (some value) =
      [["x"], ["lamp", "on"], ["lamp", "broken"]] := by
    decide
  have hroom : value.repair (.schema roomSchema) (roomSchema.failures (some value)) =
      .ok (.object [("lamp", .object [("on", .bool false)])]) := rfl
  obtain rfl := Except.ok.inj (hr.symm.trans hroom)
  exact ⟨value, _, _, built_roomSchema, rfl, hv, hfailures, hr, rfl, hto⟩

end Schema

end ValidatedStore
