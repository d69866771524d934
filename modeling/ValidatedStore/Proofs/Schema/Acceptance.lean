import ValidatedStore.Proofs.Fields
import ValidatedStore.Repair

/-!
# What a schema accepts at its declared places

A record accepts exactly the objects whose keys are all declared and whose fields, present or
absent, are accepted one by one; every other schema fails as a whole. So an accepted value has
something acceptable, or an acceptable absence, at every declared path.
-/

namespace ValidatedStore

namespace Schema

variable {schema inner : Schema} {fields : List (String × Schema)} {fallback value : Value}
  {path : KeyPath} {entries : List (String × Value)} {part : Option Value}

theorem rootUnless_cases (accepted : Bool) :
    rootUnless accepted = [] ∨ rootUnless accepted = [KeyPath.root] := by
  cases accepted <;> simp [rootUnless]

theorem rootUnless_eq_nil_iff {accepted : Bool} : rootUnless accepted = [] ↔ accepted = true := by
  cases accepted <;> simp [rootUnless]

theorem accepts_iff : schema.accepts part = true ↔ schema.failures part = [] := by
  rw [accepts, List.isEmpty_iff]

/-- Truth values are accepted as such. -/
theorem accepts_boolean_iff :
    (boolean fallback).accepts part = true ↔ ∃ b, part = some (.bool b) := by
  rw [accepts_iff, failures.eq_def]
  dsimp only
  rw [rootUnless_eq_nil_iff]
  split <;> simp_all

/-- A text is accepted under the rule. -/
theorem accepts_string_iff {rule : TextRule} :
    (string rule fallback).accepts part = true ↔
      ∃ s, part = some (.string s) ∧ rule.accepts s = true := by
  rw [accepts_iff, failures.eq_def]
  dsimp only
  rw [rootUnless_eq_nil_iff]
  split <;> simp_all

/-- A number is accepted under the rule. -/
theorem accepts_number_iff {rule : NumberRule} :
    (number rule fallback).accepts part = true ↔
      ∃ n, part = some (.number n) ∧ rule.accepts n = true := by
  rw [accepts_iff, failures.eq_def]
  dsimp only
  rw [rootUnless_eq_nil_iff]
  split <;> simp_all

/-- Null and absence are accepted as the schema says, and nothing else. -/
theorem accepts_nullable_iff {null absent : Bool} :
    (nullable null absent).accepts part = true ↔
      part = none ∧ absent = true ∨ part = some .null ∧ null = true := by
  rw [accepts_iff, failures.eq_def]
  dsimp only
  rw [rootUnless_eq_nil_iff]
  split <;> simp_all

/-- An array is accepted if all its items are. -/
theorem accepts_list_iff {item : Schema} :
    (list item fallback).accepts part = true ↔
      ∃ elements, part = some (.array elements) ∧
        ∀ element ∈ elements, item.accepts (some element) = true := by
  rw [accepts_iff, failures.eq_def]
  dsimp only
  rw [rootUnless_eq_nil_iff]
  split <;> simp_all [accepts]

theorem someAccepts_iff {members : List Schema} :
    someAccepts members part = true ↔ ∃ member ∈ members, member.accepts part = true := by
  induction members with
  | nil => simp [someAccepts]
  | cons member rest ih => simp [someAccepts, ih, accepts]

/-- A union accepts what one of its members accepts. -/
theorem accepts_union_iff {members : List Schema} {fallback : Option Value} :
    (union members fallback).accepts part = true ↔
      ∃ member ∈ members, member.accepts part = true := by
  rw [accepts_iff, failures, rootUnless_eq_nil_iff, someAccepts_iff]

/-- All keys of an object are declared exactly when none is reported. -/
theorem undeclaredKeys_eq_nil_iff :
    undeclaredKeys fields entries = [] ↔
      ∀ key ∈ Fields.names entries, key ∈ Fields.names fields := by
  simp only [undeclaredKeys, List.filter_eq_nil_iff, Bool.not_eq_true', Bool.not_eq_false,
    Fields.has, Fields.mem_names_iff]

/-- The fields have no failure exactly when each of them accepts what it finds. -/
theorem fieldFailures_eq_nil_iff :
    fieldFailures fields entries = [] ↔
      ∀ field ∈ fields, field.2.accepts (Fields.find? field.1 entries) = true := by
  induction fields with
  | nil => simp [fieldFailures]
  | cons field rest ih =>
    obtain ⟨name, schema⟩ := field
    simp [fieldFailures, ih, accepts_iff]

/-- A record fails an object at undeclared keys and inside its fields. -/
theorem failures_record_object :
    (record fields fallback).failures (some (.object entries)) =
      (undeclaredKeys fields entries).map (fun key => [key]) ++ fieldFailures fields entries := by
  rw [failures]

/-- The failures of the fields are those inside each field, below its name. -/
theorem mem_fieldFailures_iff :
    path ∈ fieldFailures fields entries ↔
      ∃ field ∈ fields, ∃ rest ∈ field.2.failures (Fields.find? field.1 entries),
        path = field.1 :: rest := by
  induction fields with
  | nil => simp [fieldFailures]
  | cons field others ih =>
    obtain ⟨name, schema⟩ := field
    simp [fieldFailures, ih, eq_comm]

/-- A record never fails an object as a whole. -/
theorem failures_record_ne_root :
    ∀ path ∈ (record fields fallback).failures (some (.object entries)), path ≠ [] := by
  rintro path h rfl
  rw [failures_record_object, List.mem_append, List.mem_map] at h
  rcases h with ⟨key, _, he⟩ | h
  · cases he
  · obtain ⟨field, _, rest, _, he⟩ := mem_fieldFailures_iff.mp h
    cases he

/-- A record fails everything but objects at the root. -/
theorem failures_record_of_not_object (h : ∀ entries, part ≠ some (.object entries)) :
    (record fields fallback).failures part = [KeyPath.root] := by
  rw [failures.eq_def]
  dsimp only
  split
  next entries => exact absurd rfl (h entries)
  next => rfl

/-- A schema that is no record fails at most at the root. -/
theorem failures_of_not_record (h : ∀ fields fallback, schema ≠ .record fields fallback)
    (part : Option Value) : schema.failures part = [] ∨ schema.failures part = [KeyPath.root] := by
  cases schema with
  | any fallback => exact .inl (by rw [failures])
  | boolean fallback => rw [failures.eq_def]; exact rootUnless_cases _
  | string rule fallback => rw [failures.eq_def]; exact rootUnless_cases _
  | number rule fallback => rw [failures.eq_def]; exact rootUnless_cases _
  | nullable null absent => rw [failures.eq_def]; exact rootUnless_cases _
  | openRecord fallback => rw [failures.eq_def]; exact rootUnless_cases _
  | record fields fallback => exact absurd rfl (h fields fallback)
  | list item fallback => rw [failures.eq_def]; exact rootUnless_cases _
  | union members fallback => rw [failures.eq_def]; exact rootUnless_cases _

/-- A schema accepts, or fails as a whole, or is a record that looks into an object. -/
theorem failures_cases (schema : Schema) (part : Option Value) :
    schema.failures part = [] ∨ schema.failures part = [KeyPath.root] ∨
      ∃ fields fallback entries,
        schema = .record fields fallback ∧ part = some (.object entries) := by
  by_cases hrec : ∃ fields fallback, schema = .record fields fallback
  · obtain ⟨fields, fallback, rfl⟩ := hrec
    by_cases hobject : ∃ entries, part = some (.object entries)
    · obtain ⟨entries, rfl⟩ := hobject
      exact .inr (.inr ⟨fields, fallback, entries, rfl, rfl⟩)
    · have hfail := @failures_record_of_not_object fields fallback part
        fun entries he => hobject ⟨entries, he⟩
      exact .inr (.inl hfail)
  · have hflat :=
      failures_of_not_record (fun fields fallback he => hrec ⟨fields, fallback, he⟩) part
    exact hflat.imp_right .inl

/-- A failure as a whole is the only one. -/
theorem failures_eq_of_root_mem (h : KeyPath.root ∈ schema.failures part) :
    schema.failures part = [KeyPath.root] := by
  rcases failures_cases schema part with hnone | hroot | ⟨fields, fallback, entries, rfl, rfl⟩
  · rw [hnone] at h
    cases h
  · exact hroot
  · exact absurd rfl (failures_record_ne_root _ h)

/-- A record accepts the objects with declared keys and acceptable fields. -/
theorem accepts_record_iff :
    (record fields fallback).accepts part = true ↔
      ∃ entries, part = some (.object entries) ∧
        (∀ key ∈ Fields.names entries, key ∈ Fields.names fields) ∧
        ∀ field ∈ fields, field.2.accepts (Fields.find? field.1 entries) = true := by
  by_cases hpart : ∃ entries, part = some (.object entries)
  · obtain ⟨entries, rfl⟩ := hpart
    rw [accepts_iff, failures_record_object, List.append_eq_nil_iff, List.map_eq_nil_iff,
      undeclaredKeys_eq_nil_iff, fieldFailures_eq_nil_iff]
    constructor
    · exact fun h => ⟨entries, rfl, h⟩
    · rintro ⟨entries', he, h⟩
      obtain rfl : entries = entries' := by simpa using he
      exact h
  · have hno : ∀ entries, part ≠ some (.object entries) := fun entries he => hpart ⟨entries, he⟩
    rw [accepts_iff, failures_record_of_not_object hno]
    constructor
    · intro h
      cases h
    · rintro ⟨entries, he, _⟩
      exact absurd he (hno entries)

/-- Only a record declares something below the root, at the path's first key. -/
theorem declared_cons_eq_ok_iff {key : String} {rest : KeyPath} :
    schema.declared (key :: rest) = .ok inner ↔
      ∃ fields fallback field, schema = .record fields fallback ∧
        Fields.find? key fields = some field ∧ field.declared rest = .ok inner := by
  cases schema with
  | record fields fallback =>
    rw [declared]
    cases hf : Fields.find? key fields with
    | none => simp [hf]
    | some field => cases hd : field.declared rest <;> simp [hf, hd, Except.mapError]
  | any _ => simp [declared]
  | boolean _ => simp [declared]
  | string _ _ => simp [declared]
  | number _ _ => simp [declared]
  | nullable _ _ => simp [declared]
  | openRecord _ => simp [declared]
  | list _ _ => simp [declared]
  | union _ _ => simp [declared]

/-- A record that is declared at a path declares its fields one key further. -/
theorem declared_append_singleton {key : String}
    (hd : schema.declared path = .ok (.record fields fallback)) :
    schema.declared (path ++ [key]) = .ok inner ↔ Fields.find? key fields = some inner := by
  induction path generalizing schema with
  | nil =>
    obtain rfl : schema = .record fields fallback := by simpa [declared] using hd
    rw [List.nil_append, declared_cons_eq_ok_iff]
    constructor
    · rintro ⟨_, _, field, he, hf, hfield⟩
      obtain ⟨rfl, _⟩ := Schema.record.inj he
      obtain rfl : field = inner := by simpa [declared] using hfield
      exact hf
    · exact fun hf => ⟨fields, fallback, inner, rfl, hf, rfl⟩
  | cons first rest ih =>
    obtain ⟨others, otherwise, field, rfl, hf, hrest⟩ := declared_cons_eq_ok_iff.mp hd
    rw [List.cons_append, declared_cons_eq_ok_iff]
    constructor
    · rintro ⟨_, _, same, he, hsame, hinner⟩
      obtain ⟨rfl, _⟩ := Schema.record.inj he
      obtain rfl : field = same := Option.some.inj (hf.symm.trans hsame)
      exact (ih hrest).mp hinner
    · exact fun hinner => ⟨others, otherwise, field, rfl, hf, (ih hrest).mpr hinner⟩

/-- What is declared below the root is declared by a record around it, as one of its fields. -/
theorem exists_record_of_declared {key : String}
    (hd : schema.declared (path ++ [key]) = .ok inner) :
    ∃ fields fallback, schema.declared path = .ok (.record fields fallback) ∧
      Fields.find? key fields = some inner := by
  induction path generalizing schema with
  | nil =>
    obtain ⟨fields, fallback, field, rfl, hf, hfield⟩ := declared_cons_eq_ok_iff.mp hd
    obtain rfl : field = inner := by simpa [declared] using hfield
    exact ⟨fields, fallback, rfl, hf⟩
  | cons first rest ih =>
    obtain ⟨others, otherwise, field, rfl, hf, hrest⟩ := declared_cons_eq_ok_iff.mp hd
    obtain ⟨fields, fallback, hrecord, hkey⟩ := ih hrest
    have hcons := declared_cons_eq_ok_iff.mpr ⟨others, otherwise, field, rfl, hf, hrecord⟩
    exact ⟨fields, fallback, hcons, hkey⟩

/-- An accepted value has an acceptable part, or an acceptable absence, at every declared path. -/
theorem find_declared (ha : schema.accepts (some value) = true)
    (hd : schema.declared path = .ok inner) :
    ∃ found, value.find path = .ok found ∧ inner.accepts found = true := by
  induction path generalizing schema value with
  | nil =>
    obtain rfl : schema = inner := by simpa [declared] using hd
    exact ⟨some value, by rw [Value.find], ha⟩
  | cons key rest ih =>
    obtain ⟨fields, fallback, field, rfl, hf, hrest⟩ := declared_cons_eq_ok_iff.mp hd
    obtain ⟨entries, he, _, hfields⟩ := accepts_record_iff.mp ha
    obtain rfl : value = .object entries := by simpa using he
    have hfield := hfields _ (Fields.mem_of_find? hf)
    dsimp only at hfield
    rw [Value.find, Value.child]
    cases hfound : Fields.find? key entries with
    | some part =>
      obtain ⟨found, hv, hi⟩ := ih (hfound ▸ hfield) hrest
      exact ⟨found, by simp only [hv, Except.mapError], hi⟩
    | none =>
      rw [hfound] at hfield
      cases rest with
      | nil =>
        obtain rfl : field = inner := by simpa [declared] using hrest
        exact ⟨none, by simp, hfield⟩
      | cons next rest =>
        -- A field with declared parts is a record, and a record never accepts absence.
        obtain ⟨_, _, _, rfl, _, _⟩ := declared_cons_eq_ok_iff.mp hrest
        obtain ⟨_, hnone, _⟩ := accepts_record_iff.mp hfield
        cases hnone

/-- What is declared below the root stands in an object of an accepted value, or is missing
there. -/
theorem find_object_of_declared {key : String} (ha : schema.accepts (some value) = true)
    (hd : schema.declared (path ++ [key]) = .ok inner) :
    ∃ entries, value.find path = .ok (some (.object entries)) := by
  obtain ⟨fields, fallback, hrecord, _⟩ := exists_record_of_declared hd
  obtain ⟨found, hf, hi⟩ := find_declared ha hrecord
  obtain ⟨entries, rfl, _, _⟩ := accepts_record_iff.mp hi
  exact ⟨entries, hf⟩

end Schema

end ValidatedStore
