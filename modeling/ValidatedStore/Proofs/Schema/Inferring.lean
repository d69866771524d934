import ValidatedStore.Proofs.Schema.Declaring

/-!
# What inference makes of a sample

Inference succeeds on every sample: each schema that it builds on the way accepts its own default,
because that is the part of the sample it was built from, and a part has its own shape. What the
result accepts are the values that have the shape of the sample, and nothing else. It declares the
fields of the objects that are reached through objects alone, each with what stands there as its
default. The inductions are on the sample, and on the path.
-/

namespace ValidatedStore

namespace Schema

variable {schema inner : Schema} {sample : Value} {items : List Value}
  {entries : List (String × Value)} {fields : List (String × Schema)} {key : String}
  {path : KeyPath} {part : Option Value}

section Accepting

/-- An example object gives the record of the schemas of its entries, under the same names, if that
accepts the object. -/
theorem ofExample_object_iff_paired (hd : Fields.Distinct entries) :
    ofExample (.object entries) = .ok schema ↔
      ∃ fields, Fields.Paired (fun value field => ofExample value = .ok field) entries fields ∧
        schema = .record fields (.object entries) ∧
        schema.accepts (some (.object entries)) = true := by
  rw [ofExample_object_iff]
  constructor
  · rintro ⟨fields, hf, hb⟩
    have hpaired := ofEntries_eq_ok_iff.mp hf
    have hchecked : (record (Fields.insertAll [] fields) (.object entries)).checked = .ok schema :=
      hb
    rw [hpaired.insertAll_nil hd, checked_eq_ok_iff] at hchecked
    obtain ⟨rfl, ha⟩ := hchecked
    exact ⟨fields, hpaired, rfl, ha⟩
  · rintro ⟨fields, hpaired, rfl, ha⟩
    refine ⟨fields, ofEntries_eq_ok_iff.mpr hpaired, ?_⟩
    change (record (Fields.insertAll [] fields) (.object entries)).checked = _
    rw [hpaired.insertAll_nil hd]
    exact checked_eq_ok_iff.mpr ⟨rfl, ha⟩

/-- The items' schema of an example array accepts elements that are each like one of the items, and
any elements if there are none. -/
theorem accepts_elements_iff {members : List Schema} {item : Schema} {elements : List Value}
    (hitems : ∀ sample ∈ items, ∀ member, ofExample sample = .ok member →
      ∀ element, member.accepts (some element) = true ↔ element.HasShapeOf sample)
    (hm : List.Forall₂ (fun item member => ofExample item = .ok member) items members)
    (hi : (if members.isEmpty then buildAny none else buildUnion members none) = .ok item) :
    (∀ element ∈ elements, item.accepts (some element) = true) ↔
      items = [] ∨ ∀ element ∈ elements, ∃ sample ∈ items, element.HasShapeOf sample := by
  cases members with
  | nil =>
    obtain rfl := List.forall₂_nil_right_iff.mp hm
    rw [List.isEmpty_nil, if_pos rfl] at hi
    obtain ⟨rfl, -⟩ := checked_eq_ok_iff.mp hi
    exact iff_of_true (fun element _ => by rw [accepts_iff, failures]) (.inl rfl)
  | cons first rest =>
    have hsome : items ≠ [] := by
      rintro rfl
      cases hm
    rw [List.isEmpty_cons, if_neg Bool.false_ne_true] at hi
    obtain ⟨fallback, hc⟩ := exists_checked_of_union hi
    obtain ⟨rfl, -⟩ := checked_eq_ok_iff.mp hc
    rw [or_iff_right hsome]
    refine forall₂_congr fun element _ => ?_
    rw [accepts_union_iff]
    constructor
    · rintro ⟨member, hmember, ha⟩
      obtain ⟨sample, hsample, hschema⟩ := exists_of_mem_right hm hmember
      exact ⟨sample, hsample, (hitems sample hsample member hschema element).mp ha⟩
    · rintro ⟨sample, hsample, hs⟩
      obtain ⟨member, hmember, hschema⟩ := exists_of_mem_left hm hsample
      exact ⟨member, hmember, (hitems sample hsample member hschema element).mpr hs⟩

/-- The schema of a sample accepts the values that have the shape of the sample, and it never
accepts absence. -/
theorem accepts_ofExample_iff (hw : sample.WellFormed) (h : ofExample sample = .ok schema) :
    schema.accepts part = true ↔ ∃ value, part = some value ∧ value.HasShapeOf sample := by
  induction sample using Value.induction_on_parts generalizing schema part with
  | null =>
    obtain rfl := Except.ok.inj (ofExample_null.symm.trans h)
    cases part <;> simp [accepts_nullable_iff, Value.HasShapeOf]
  | bool b =>
    obtain rfl := Except.ok.inj ((ofExample_bool b).symm.trans h)
    cases part <;> simp [accepts_boolean_iff, Value.HasShapeOf]
  | number n =>
    obtain rfl := Except.ok.inj ((ofExample_number n).symm.trans h)
    cases part <;> simp [accepts_number_iff, Value.HasShapeOf, accepts_anyNumber]
  | string s =>
    obtain rfl := Except.ok.inj ((ofExample_string s).symm.trans h)
    cases part <;> simp [accepts_string_iff, Value.HasShapeOf, accepts_anyText]
  | array items ih =>
    obtain ⟨members, item, hm, hi, hl⟩ := ofExample_array_iff.mp h
    obtain ⟨rfl, -⟩ := checked_eq_ok_iff.mp hl
    have hitems : ∀ sample ∈ items, ∀ member, ofExample sample = .ok member →
        ∀ element, member.accepts (some element) = true ↔ element.HasShapeOf sample := by
      intro sample hsample member hmember element
      have hpart : member.accepts (some element) = true ↔
          ∃ value, some element = some value ∧ value.HasShapeOf sample :=
        ih sample hsample (Value.wellFormed_array.mp hw sample hsample) hmember
      simpa using hpart
    simp only [accepts_list_iff, Value.hasShapeOf_array,
      accepts_elements_iff hitems (ofItems_eq_ok_iff.mp hm) hi]
    constructor
    · rintro ⟨elements, rfl, hall⟩
      exact ⟨_, rfl, elements, rfl, hall⟩
    · rintro ⟨_, rfl, elements, rfl, hall⟩
      exact ⟨elements, rfl, hall⟩
  | object entries ih =>
    obtain ⟨hd, hparts⟩ := Value.wellFormed_object.mp hw
    obtain ⟨fields, hpaired, rfl, -⟩ := (ofExample_object_iff_paired hd).mp h
    simp only [accepts_record_iff, Value.hasShapeOf_object]
    constructor
    · rintro ⟨others, rfl, hkeys, hfields⟩
      refine ⟨_, rfl, others, rfl, fun key => ⟨fun hm => ?_, fun hm => ?_⟩, ?_⟩
      · rw [hpaired.names_eq]
        exact hkeys key hm
      · -- A field whose sample is there does not accept absence.
        obtain ⟨entry, hentry, rfl⟩ := List.mem_map.mp hm
        obtain ⟨field, hfield, hname, hschema⟩ := exists_of_mem_left hpaired hentry
        have haccepted := hfields field hfield
        rw [← hname, ih entry hentry (hparts entry hentry) hschema] at haccepted
        obtain ⟨inner, hinner, -⟩ := haccepted
        exact Fields.mem_names_iff.mpr (by rw [hinner]; rfl)
      · intro entry hentry inner hinner
        obtain ⟨field, hfield, hname, hschema⟩ := exists_of_mem_left hpaired hentry
        have haccepted := hfields field hfield
        rw [← hname, hinner, ih entry hentry (hparts entry hentry) hschema] at haccepted
        obtain ⟨_, he, hshape⟩ := haccepted
        exact Option.some.inj he ▸ hshape
    · rintro ⟨_, rfl, others, rfl, hkeys, hshapes⟩
      refine ⟨others, rfl, fun key hm => ?_, fun field hfield => ?_⟩
      · rw [← hpaired.names_eq]
        exact (hkeys key).mp hm
      · obtain ⟨entry, hentry, hname, hschema⟩ := exists_of_mem_right hpaired hfield
        have hkey : entry.1 ∈ Fields.names others :=
          (hkeys entry.1).mpr (Fields.mem_names_of_mem hentry)
        obtain ⟨inner, hinner⟩ := Option.isSome_iff_exists.mp (Fields.mem_names_iff.mp hkey)
        rw [← hname, hinner, ih entry hentry (hparts entry hentry) hschema]
        exact ⟨inner, rfl, hshapes entry hentry inner hinner⟩

/-- A value is accepted by the schema of a sample exactly if it has the shape of the sample. -/
theorem accepts_some_ofExample_iff {value : Value} (hw : sample.WellFormed)
    (h : ofExample sample = .ok schema) :
    schema.accepts (some value) = true ↔ value.HasShapeOf sample := by
  rw [accepts_ofExample_iff hw h]
  simp

end Accepting

section Building

/-- What is inferred from a sample accepts the sample. -/
theorem accepts_self_of_ofExample (hw : sample.WellFormed) (h : ofExample sample = .ok schema) :
    schema.accepts (some sample) = true :=
  (accepts_some_ofExample_iff hw h).mpr hw.hasShapeOf_self

/-- The items of an example array have a schema that accepts them all. -/
theorem exists_item (hw : ∀ item ∈ items, item.WellFormed)
    (h : ∀ item ∈ items, ∃ member, ofExample item = .ok member) :
    ∃ members item, ofItems items = .ok members ∧
      (if members.isEmpty then buildAny none else buildUnion members none) = .ok item ∧
      ∀ element ∈ items, item.accepts (some element) = true := by
  obtain ⟨members, hm⟩ := exists_forall₂ h
  have hbuilds : ∃ item,
      (if members.isEmpty then buildAny none else buildUnion members none) = .ok item := by
    cases members with
    | nil => exact ⟨.any .null, rfl⟩
    | cons first rest =>
      obtain ⟨sample, _, hfirst⟩ := exists_of_mem_right hm List.mem_cons_self
      exact exists_buildUnion (built_ofExample hfirst).wellFormed.accepts_default rest
  obtain ⟨item, hi⟩ := hbuilds
  refine ⟨members, item, ofItems_eq_ok_iff.mpr hm, hi, ?_⟩
  refine (accepts_elements_iff (fun sample hsample member hmember element => ?_) hm hi).mpr ?_
  · exact accepts_some_ofExample_iff (hw sample hsample) hmember
  · exact .inr fun element hm => ⟨element, hm, (hw element hm).hasShapeOf_self⟩

/-- Inference succeeds on every sample. -/
theorem exists_ofExample (hw : sample.WellFormed) : ∃ schema, ofExample sample = .ok schema := by
  induction sample using Value.induction_on_parts with
  | null => exact ⟨_, ofExample_null⟩
  | bool b => exact ⟨_, ofExample_bool b⟩
  | number n => exact ⟨_, ofExample_number n⟩
  | string s => exact ⟨_, ofExample_string s⟩
  | array items ih =>
    have hparts := Value.wellFormed_array.mp hw
    obtain ⟨members, item, hm, hi, hall⟩ :=
      exists_item hparts fun item hitem => ih item hitem (hparts item hitem)
    have haccepted : (list item (.array items)).accepts (some (.array items)) = true :=
      accepts_list_iff.mpr ⟨items, rfl, hall⟩
    exact ⟨_, ofExample_array_iff.mpr
      ⟨members, item, hm, hi, checked_eq_ok_iff.mpr ⟨rfl, haccepted⟩⟩⟩
  | object entries ih =>
    obtain ⟨hd, hparts⟩ := Value.wellFormed_object.mp hw
    have hfields : ∀ entry ∈ entries, ∃ field : String × Schema,
        entry.1 = field.1 ∧ ofExample entry.2 = .ok field.2 := by
      intro entry hentry
      obtain ⟨field, hfield⟩ := ih entry hentry (hparts entry hentry)
      exact ⟨(entry.1, field), rfl, hfield⟩
    obtain ⟨fields, hpaired⟩ : ∃ fields,
        Fields.Paired (fun value field => ofExample value = .ok field) entries fields :=
      exists_forall₂ hfields
    have haccepted : (record fields (.object entries)).accepts (some (.object entries)) = true := by
      refine accepts_record_iff.mpr ⟨entries, rfl, fun key hm => ?_, fun field hfield => ?_⟩
      · rwa [← hpaired.names_eq]
      · obtain ⟨entry, hentry, hname, hschema⟩ := exists_of_mem_right hpaired hfield
        rw [← hname, Fields.find?_of_mem hd hentry]
        exact accepts_self_of_ofExample (hparts entry hentry) hschema
    exact ⟨_, (ofExample_object_iff_paired hd).mpr ⟨fields, hpaired, rfl, haccepted⟩⟩

end Building

section Declaring

/-- Only from an example object a record is inferred. -/
theorem exists_object_of_record {fallback : Value}
    (h : ofExample sample = .ok (.record fields fallback)) :
    ∃ entries, sample = .object entries := by
  cases sample with
  | object entries => exact ⟨entries, rfl⟩
  | null => cases Except.ok.inj (ofExample_null.symm.trans h)
  | bool b => cases Except.ok.inj ((ofExample_bool b).symm.trans h)
  | number n => cases Except.ok.inj ((ofExample_number n).symm.trans h)
  | string s => cases Except.ok.inj ((ofExample_string s).symm.trans h)
  | array items =>
    obtain ⟨_, _, _, _, hl⟩ := ofExample_array_iff.mp h
    cases (checked_eq_ok_iff.mp hl).1

/-- At a path along which the sample has fields, and nowhere else, the inferred schema declares what
is inferred from the part that stands there. -/
theorem declared_ofExample_iff (hw : sample.WellFormed) (h : ofExample sample = .ok schema) :
    schema.declared path = .ok inner ↔
      sample.HasFieldsAlong path ∧
        ∃ part, sample.find path = .ok (some part) ∧ ofExample part = .ok inner := by
  induction path generalizing sample schema with
  | nil =>
    rw [declared, Value.find]
    constructor
    · intro he
      obtain rfl := Except.ok.inj he
      exact ⟨Value.hasFieldsAlong_nil, sample, rfl, h⟩
    · rintro ⟨-, part, he, hinner⟩
      obtain rfl : sample = part := by simpa using he
      obtain rfl := Except.ok.inj (h.symm.trans hinner)
      rfl
  | cons key rest ih =>
    rw [declared_cons_eq_ok_iff, Value.hasFieldsAlong_cons]
    constructor
    · rintro ⟨fields, fallback, field, rfl, hf, hrest⟩
      obtain ⟨entries, rfl⟩ := exists_object_of_record h
      obtain ⟨hd, hparts⟩ := Value.wellFormed_object.mp hw
      obtain ⟨_, hpaired, he, -⟩ := (ofExample_object_iff_paired hd).mp h
      obtain ⟨rfl, -⟩ := Schema.record.inj he
      obtain ⟨inside, hinside, hfield⟩ := hpaired.exists_find?_left hf
      have hpart := hparts _ (Fields.mem_of_find? hinside)
      obtain ⟨hfields, part, hfound, hinner⟩ := (ih hpart hfield).mp hrest
      have hc : (Value.object entries).child key = .ok (some inside) := by
        rw [Value.child, hinside]
      refine ⟨⟨entries, inside, rfl, hinside, hfields⟩, part, ?_, hinner⟩
      rw [Value.find_cons hc, hfound, Except.mapError]
    · rintro ⟨⟨entries, inside, rfl, hinside, hfields⟩, part, hfound, hinner⟩
      obtain ⟨hd, hparts⟩ := Value.wellFormed_object.mp hw
      obtain ⟨fields, hpaired, rfl, -⟩ := (ofExample_object_iff_paired hd).mp h
      obtain ⟨field, hf, hfield⟩ := hpaired.exists_find?_right hinside
      have hpart := hparts _ (Fields.mem_of_find? hinside)
      have hc : (Value.object entries).child key = .ok (some inside) := by
        rw [Value.child, hinside]
      rw [Value.find_cons hc, mapError_eq_ok_iff] at hfound
      have hrest := (ih hpart hfield).mpr ⟨hfields, part, hfound, hinner⟩
      exact ⟨fields, _, field, rfl, hf, hrest⟩

/-- What a schema is to say of the sample that it was inferred from. -/
structure Mirrors (schema : Schema) (sample : Value) : Prop where
  /-- The sample is the default. -/
  default : schema.default? = some sample
  /-- The sample is accepted. -/
  accepted : schema.accepts (some sample) = true
  /-- Declared are the paths along which the sample has fields; arrays are not entered. -/
  declares_iff : ∀ path, schema.declares path = true ↔ sample.HasFieldsAlong path
  /-- What is declared at a path has as its default what the sample has there. -/
  declared : ∀ path inner, schema.declared path = .ok inner →
    sample.find path = .ok inner.default?

/-- The schema inferred from a sample mirrors it. -/
theorem mirrors_of_ofExample (hw : sample.WellFormed) (h : ofExample sample = .ok schema) :
    schema.Mirrors sample where
  default := default_ofExample h
  accepted := accepts_self_of_ofExample hw h
  declares_iff path := by
    constructor
    · intro hd
      rw [declares] at hd
      cases hi : schema.declared path with
      | ok inner => exact ((declared_ofExample_iff hw h).mp hi).1
      | error fault => rw [hi] at hd; cases hd
    · intro hf
      obtain ⟨part, hpart⟩ := hf.exists_find
      obtain ⟨inner, hinner⟩ := exists_ofExample (hw.find hpart)
      rw [declares, (declared_ofExample_iff hw h).mpr ⟨hf, part, hpart, hinner⟩]
      rfl
  declared path inner hi := by
    obtain ⟨-, part, hpart, hinner⟩ := (declared_ofExample_iff hw h).mp hi
    rw [hpart, default_ofExample hinner]

end Declaring

/-- Inference succeeds on every sample and gives a schema that mirrors it. Without a sample it gives
a schema that accepts absence and no value. -/
theorem infer_mirrors :
    (∀ sample : Value, sample.WellFormed →
      ∃ schema, infer (some sample) = .ok schema ∧ schema.Mirrors sample) ∧
    ∃ schema, infer none = .ok schema ∧ schema.accepts none = true ∧
      ∀ value, schema.accepts (some value) = false := by
  constructor
  · intro sample hw
    obtain ⟨schema, hs⟩ := exists_ofExample hw
    exact ⟨schema, hs, mirrors_of_ofExample hw hs⟩
  · refine ⟨.nullable false true, rfl, accepts_nullable_iff.mpr (.inl ⟨rfl, rfl⟩), fun value => ?_⟩
    rw [Bool.eq_false_iff, ne_eq, accepts_nullable_iff]
    simp

/-- From a room with a list of tags a schema is inferred that declares the switch of the lamp, with
its position as the default, and no single tag. -/
theorem infer_mirrors_of_room :
    ∃ (sample : Value) (schema inner : Schema), sample.WellFormed ∧
      infer (some sample) = .ok schema ∧ schema.Mirrors sample ∧
      schema.declared ["lamp", "on"] = .ok inner ∧ inner.default? = some (.bool true) ∧
      schema.declares ["tags", "0"] = false := by
  let sample : Value := .object [("tags", .array [.null, .string "old"]),
    ("lamp", .object [("on", .bool true)])]
  have hw : sample.WellFormed := by
    simp [sample, Value.WellFormed, Value.WellFormedEntries, Value.WellFormedItems, Fields.Distinct]
  obtain ⟨schema, hs, hmirrors⟩ := infer_mirrors.1 sample hw
  have hinferred : infer (some sample) = .ok (.record
      [("tags", .list (.union [.nullable true false, .string anyText (.string "old")] (some .null))
          (.array [.null, .string "old"])),
        ("lamp", .record [("on", .boolean (.bool true))] (.object [("on", .bool true)]))]
      sample) := rfl
  obtain rfl := Except.ok.inj (hinferred.symm.trans hs)
  exact ⟨sample, _, _, hw, hs, hmirrors, rfl, rfl, rfl⟩

/-- The schema inferred from a sample accepts the values that have the shape of the sample, and
neither another value nor absence. -/
theorem accepts_infer_iff (hw : sample.WellFormed) :
    ∃ schema, infer (some sample) = .ok schema ∧ schema.accepts none = false ∧
      ∀ value : Value, schema.accepts (some value) = true ↔ value.HasShapeOf sample := by
  obtain ⟨schema, hs⟩ := exists_ofExample hw
  refine ⟨schema, hs, ?_, fun value => accepts_some_ofExample_iff hw hs⟩
  rw [Bool.eq_false_iff, ne_eq, accepts_ofExample_iff hw hs]
  simp

/-- A list of nulls and lamps is like a sample of both, in whatever order the items and the keys of
the lamps stand. A lamp without a switch is not. -/
theorem accepts_infer_iff_of_lamps :
    ∃ (sample value other : Value) (schema : Schema), sample.WellFormed ∧
      infer (some sample) = .ok schema ∧ schema.accepts none = false ∧
      (∀ value : Value, schema.accepts (some value) = true ↔ value.HasShapeOf sample) ∧
      value = .array [.object [("name", .string "b"), ("on", .bool true)], .null, .null] ∧
      value.HasShapeOf sample ∧ other = .array [.object [("name", .string "a")]] ∧
      ¬other.HasShapeOf sample := by
  let sample : Value := .array [.null, .object [("on", .bool false), ("name", .string "a")]]
  have hw : sample.WellFormed := by
    simp [sample, Value.WellFormed, Value.WellFormedEntries, Value.WellFormedItems, Fields.Distinct]
  obtain ⟨schema, hs, hnone, hiff⟩ := accepts_infer_iff hw
  have hinferred : infer (some sample) = .ok (.list (.union [.nullable true false,
        .record [("on", .boolean (.bool false)), ("name", .string anyText (.string "a"))]
          (.object [("on", .bool false), ("name", .string "a")])] (some .null)) sample) := rfl
  obtain rfl := Except.ok.inj (hinferred.symm.trans hs)
  refine ⟨sample, _, _, _, hw, hs, hnone, hiff, rfl, (hiff _).mp (by decide), rfl, fun h => ?_⟩
  exact absurd ((hiff _).mpr h) (by decide)

end Schema

end ValidatedStore
