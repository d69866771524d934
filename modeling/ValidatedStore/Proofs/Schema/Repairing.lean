import ValidatedStore.Proofs.Schema.Built
import ValidatedStore.Proofs.Value.Places
import ValidatedStore.Proofs.Value.WellFormed

/-!
# Repairs end in an accepted value

A repair works off a list of paths that was computed on the value it starts from, while the value
changes under it. It succeeds all the same: the places at which a value fails a schema are apart
from one another, and unless it fails as a whole each of them is an entry, or a missing entry, of an
object in it. So they can be restored one by one. What a fitting template has for a place, or its
having nothing there, is accepted at that place, and everything else is as it was, so that the whole
is accepted then. The inductions are on the schema.
-/

namespace ValidatedStore

namespace Schema

/-- What a function has for each declared path is accepted there, absence included, and it has
nothing at keys that a declared record lacks. -/
structure Fits (schema : Schema) (at? : KeyPath → Option Value) : Prop where
  /-- Declared places are given something acceptable, or an acceptable absence. -/
  accepted : ∀ {path inner}, schema.declared path = .ok inner → inner.accepts (at? path) = true
  /-- Undeclared keys of a record are given nothing. -/
  undeclared : ∀ {path fields fallback key}, schema.declared path = .ok (.record fields fallback) →
    Fields.find? key fields = none → at? (path ++ [key]) = none

variable {schema inner : Schema} {fields : List (String × Schema)} {fallback value : Value}
  {at? : KeyPath → Option Value} {entries : List (String × Value)} {path : KeyPath}

/-- A property of schemas holds of all if it passes from the fields of records to the whole. -/
theorem induction_on_fields {P : Schema → Prop}
    (step : ∀ schema, (∀ fields fallback, schema = .record fields fallback →
      ∀ field ∈ fields, P field.2) → P schema) (schema : Schema) : P schema :=
  step schema fun fields fallback he field hm => by
    have hlt : sizeOf field.2 < sizeOf schema := by
      have h₁ := List.sizeOf_lt_of_mem hm
      obtain ⟨key, inner⟩ := field
      subst he
      simp only [record.sizeOf_spec, Prod.mk.sizeOf_spec] at h₁ ⊢
      omega
    exact induction_on_fields step field.2
termination_by sizeOf schema

/-- The failures of fields with distinct names are apart if those inside each field are. -/
theorem pairwise_fieldFailures (hd : Fields.Distinct fields)
    (hinside : ∀ field ∈ fields,
      (field.2.failures (Fields.find? field.1 entries)).Pairwise KeyPath.Apart) :
    (fieldFailures fields entries).Pairwise KeyPath.Apart := by
  induction fields with
  | nil => exact .nil
  | cons head rest ih =>
    obtain ⟨name, field⟩ := head
    obtain ⟨hfresh, hrest⟩ := List.nodup_cons.mp hd
    have hhead := hinside (name, field) List.mem_cons_self
    rw [fieldFailures, List.pairwise_append]
    refine ⟨hhead.map _ fun _ _ ha => KeyPath.apart_cons_self.mpr ha,
      ih hrest fun other hm => hinside other (List.mem_cons_of_mem _ hm), ?_⟩
    intro first hf second hs
    obtain ⟨_, _, rfl⟩ := List.mem_map.mp hf
    obtain ⟨other, hother, _, _, rfl⟩ := mem_fieldFailures_iff.mp hs
    have hmem : other.1 ∈ Fields.names rest := Fields.mem_names_of_mem hother
    exact KeyPath.apart_cons_of_ne fun he => hfresh (he ▸ hmem)

/-- The failures of a value, or of its absence, are apart from one another. -/
theorem pairwise_failures {part : Option Value} (hw : schema.WellFormed)
    (hv : ∀ value, part = some value → value.WellFormed) :
    (schema.failures part).Pairwise KeyPath.Apart := by
  induction schema using induction_on_fields generalizing part with
  | step schema ih =>
    rcases failures_cases schema part with hnone | hroot | ⟨fields, fallback, entries, rfl, rfl⟩
    · rw [hnone]
      exact .nil
    · rw [hroot]
      exact List.pairwise_singleton _ _
    · obtain ⟨hd, hparts⟩ := Value.wellFormed_object.mp (hv _ rfl)
      rw [failures_record_object, List.pairwise_append]
      refine ⟨?_, pairwise_fieldFailures hw.distinct fun field hm => ?_, ?_⟩
      · have hkeys : (undeclaredKeys fields entries).Pairwise (· ≠ ·) := List.Pairwise.filter _ hd
        exact hkeys.map _ fun _ _ hne => KeyPath.apart_cons_of_ne hne
      · exact ih fields fallback rfl field hm (hw.field hm) fun part hp =>
          hparts _ (Fields.mem_of_find? hp)
      · intro first hf second hs
        obtain ⟨key, hkey, rfl⟩ := List.mem_map.mp hf
        obtain ⟨field, hfield, _, _, rfl⟩ := mem_fieldFailures_iff.mp hs
        refine KeyPath.apart_cons_of_ne fun he => ?_
        have hundeclared := (List.mem_filter.mp hkey).2
        have hdeclared := Fields.mem_names_iff.mp (Fields.mem_names_of_mem hfield)
        simp [Fields.has, he, hdeclared] at hundeclared

/-- A value that does not fail as a whole fails at entries of its objects, present or missing. -/
theorem standsInObject_of_mem_failures (hv : value.WellFormed)
    (hm : path ∈ schema.failures (some value)) (hne : path ≠ KeyPath.root) :
    value.StandsInObject path := by
  induction schema using induction_on_fields generalizing value path with
  | step schema ih =>
    rcases failures_cases schema (some value) with
      hnone | hroot | ⟨fields, fallback, entries, rfl, he⟩
    · rw [hnone] at hm
      cases hm
    · rw [hroot] at hm
      exact absurd (List.mem_singleton.mp hm) hne
    · obtain rfl : value = .object entries := Option.some.inj he
      obtain ⟨hd, hparts⟩ := Value.wellFormed_object.mp hv
      rw [failures_record_object, List.mem_append] at hm
      rcases hm with hm | hm
      · obtain ⟨key, _, rfl⟩ := List.mem_map.mp hm
        exact ⟨[], key, entries, rfl, rfl, hd⟩
      · obtain ⟨⟨name, field⟩, hfield, rest, hrest, rfl⟩ := mem_fieldFailures_iff.mp hm
        by_cases hend : rest = KeyPath.root
        · subst hend
          exact ⟨[], name, entries, rfl, rfl, hd⟩
        · cases hfound : Fields.find? name entries with
          | none =>
            -- What is missing fails as a whole or not at all.
            dsimp only at hrest
            rw [hfound] at hrest
            rcases failures_cases field none with hnone | hroot | ⟨_, _, _, _, he⟩
            · rw [hnone] at hrest
              cases hrest
            · rw [hroot] at hrest
              exact absurd (List.mem_singleton.mp hrest) hend
            · cases he
          | some part =>
            dsimp only at hrest
            rw [hfound] at hrest
            have hpart := hparts _ (Fields.mem_of_find? hfound)
            have hinside := ih fields fallback rfl (name, field) hfield hpart hrest hend
            exact hinside.cons (by rw [Value.child, hfound])

/-- A record fails at every undeclared key. -/
theorem singleton_mem_failures {key : String} (hm : key ∈ Fields.names entries)
    (hno : Fields.find? key fields = none) :
    [key] ∈ (record fields fallback).failures (some (.object entries)) := by
  have hkey : key ∈ undeclaredKeys fields entries :=
    List.mem_filter.mpr ⟨hm, by simp [Fields.has, hno]⟩
  rw [failures_record_object]
  exact List.mem_append_left _ (List.mem_map_of_mem hkey)

/-- Below the name of a field a record fails where the field does. -/
theorem cons_mem_failures_iff {name : String} {rest : KeyPath} (hd : Fields.Distinct fields)
    (hm : (name, inner) ∈ fields) :
    name :: rest ∈ (record fields fallback).failures (some (.object entries)) ↔
      rest ∈ inner.failures (Fields.find? name entries) := by
  have hinner := Fields.find?_of_mem hd hm
  rw [failures_record_object, List.mem_append, mem_fieldFailures_iff]
  constructor
  · rintro (hundeclared | ⟨⟨other, field⟩, hfield, rest, hrest, he⟩)
    · obtain ⟨key, hkey, he⟩ := List.mem_map.mp hundeclared
      obtain ⟨rfl, _⟩ := List.cons.inj he
      have hno := (List.mem_filter.mp hkey).2
      simp [Fields.has, hinner] at hno
    · obtain ⟨rfl, rfl⟩ := List.cons.inj he
      obtain rfl := Option.some.inj (hinner.symm.trans (Fields.find?_of_mem hd hfield))
      exact hrest
  · exact fun hrest => .inr ⟨(name, inner), hm, rest, hrest, rfl⟩

/-- Where a value fails a declared part, and at nothing around it, that part is accepted after
everything that fails was restored from what fits. -/
theorem accepts_restored {restored : Value} {paths : List KeyPath} {part : Option Value}
    (hw : schema.WellFormed) (hfits : schema.Fits at?) (hr : value.RestoredAt at? paths restored)
    (hd : schema.declared path = .ok inner) (hf : value.find path = .ok part)
    (hpaths : ∀ rest, path ++ rest ∈ paths ↔ rest ∈ inner.failures part)
    (haround : ∀ place ∈ paths, place <+: path → place = path) :
    ∃ found, restored.find path = .ok found ∧ inner.accepts found = true := by
  induction inner using induction_on_fields generalizing path part with
  | step inner ih =>
    have hroot : path ∈ paths ↔ KeyPath.root ∈ inner.failures part := by
      rw [← hpaths, KeyPath.root, List.append_nil]
    rcases failures_cases inner part with hnone | hfail | ⟨fields, fallback, entries, rfl, rfl⟩
    · have hapart : ∀ place ∈ paths, place.Apart path := by
        intro place hm
        have hbelow : ¬path <+: place := by
          rintro ⟨rest, rfl⟩
          rw [hpaths, hnone] at hm
          cases hm
        have habove : ¬place <+: path := fun h => hbelow (haround place hm h ▸ List.prefix_refl _)
        exact KeyPath.apart_iff.mpr ⟨habove, hbelow⟩
      exact ⟨part, (hr.elsewhere path hapart).trans hf, accepts_iff.mpr hnone⟩
    · have hplace := hroot.mpr (hfail ▸ List.mem_singleton_self _)
      exact ⟨at? path, hr.at_places path hplace, hfits.accepted hd⟩
    · have hnot : path ∉ paths := fun hm => failures_record_ne_root _ (hroot.mp hm) rfl
      have habove : ∀ place ∈ paths, place.isAncestorOf path = false := by
        intro place hm
        rw [Bool.eq_false_iff]
        intro h
        exact hnot (haround place hm (KeyPath.isAncestorOf_iff.mp h) ▸ hm)
      obtain ⟨kept, hk, _, horder⟩ := hr.objects path entries habove hf
      refine ⟨_, hk, accepts_record_iff.mpr ⟨kept, rfl, fun key hm => ?_, fun field hm => ?_⟩⟩
      · -- A key that no field declares was a place, and nothing is restored there.
        by_contra hno
        have hundeclared := Fields.find?_eq_none_iff.mpr hno
        by_cases hplace : path ++ [key] ∈ paths
        · have hdropped := hr.at_places _ hplace
          rw [Value.find_append_singleton hk, hfits.undeclared hd hundeclared] at hdropped
          exact Fields.find?_eq_none_iff.mp (Except.ok.inj hdropped) hm
        · have hold := (horder.untouched key hplace).mp hm
          exact hplace ((hpaths _).mpr (singleton_mem_failures hold hundeclared))
      · obtain ⟨name, field⟩ := field
        have hdistinct := (hw.declared hd).distinct
        have hfield := Fields.find?_of_mem hdistinct hm
        obtain ⟨found, hfound, ha⟩ := ih fields fallback rfl (name, field) hm
          ((declared_append_singleton hd).mpr hfield) (Value.find_append_singleton hf)
          (fun rest => by
            rw [List.append_assoc, hpaths]
            exact cons_mem_failures_iff hdistinct hm)
          (fun place hplace hprefix => by
            rcases List.prefix_concat_iff.mp hprefix with he | hprefix
            · exact he
            · exact absurd (haround place hplace hprefix ▸ hplace) hnot)
        rw [Value.find_append_singleton hk] at hfound
        obtain rfl := Except.ok.inj hfound
        exact ha

/-- Repairing a value by its failures gives an accepted value, if what replaces a value that fails
as a whole is accepted: null where the function has nothing. Unless it fails as a whole, the value
is restored at its failures. -/
theorem exists_restoreAll (hw : schema.WellFormed) (hfits : Fits schema at?)
    (hroot : KeyPath.root ∈ schema.failures (some value) →
      schema.accepts (some ((at? KeyPath.root).getD .null)) = true)
    (hv : value.WellFormed) :
    ∃ repaired, value.restoreAll at? (schema.failures (some value)) = .ok repaired ∧
      schema.accepts (some repaired) = true ∧
      (KeyPath.root ∉ schema.failures (some value) →
        value.RestoredAt at? (schema.failures (some value)) repaired) := by
  by_cases hfail : KeyPath.root ∈ schema.failures (some value)
  · refine ⟨(at? KeyPath.root).getD .null, ?_, hroot hfail, fun h => absurd hfail h⟩
    rw [failures_eq_of_root_mem hfail, Value.restoreAll]
    cases at? KeyPath.root <;> rfl
  · have hplaces : ∀ path ∈ schema.failures (some value), value.StandsInObject path :=
      fun path hm => standsInObject_of_mem_failures hv hm fun he => hfail (he ▸ hm)
    have hapart := pairwise_failures hw fun part he => Option.some.inj he ▸ hv
    obtain ⟨repaired, hr, hrestored⟩ := Value.exists_restoreAll_of_apart hapart hplaces
    have hd : schema.declared [] = .ok schema := rfl
    obtain ⟨found, hfound, ha⟩ := accepts_restored hw hfits hrestored hd rfl
      (fun rest => Iff.rfl) fun place _ hp => List.prefix_nil.mp hp
    obtain rfl : some repaired = found := Except.ok.inj hfound
    exact ⟨repaired, hr, ha, fun _ => hrestored⟩

end Schema

end ValidatedStore
