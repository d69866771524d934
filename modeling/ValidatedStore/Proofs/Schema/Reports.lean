import Mathlib.Data.List.Pairwise
import ValidatedStore.Proofs.Schema.Repairing
import ValidatedStore.Proofs.Schema.Writing

/-!
# What a validation reports

A validation reports exactly the offending places. To reach one, records are declared and objects
stand on the whole way to it; there the declared schema fails the part as a whole, or there stands a
key that the record around it does not declare. The places below a record are those that the record
reports on its object, in the same order. The inductions are on the path: what a record and its
object have below a key is what the field and the part under that key have.
-/

namespace ValidatedStore

/-- What stands at a path of a value that may be absent. -/
def Value.findPart : Option Value → KeyPath → Except PathFault (Option Value)
  | some value, path => value.find path
  | none, [] => .ok none
  | none, _ :: _ => .error (.missing 0)

/-- Below a key of an object stands what stands below its entry, be it missing. -/
theorem Value.findPart_object_cons {entries : List (String × Value)} {key : String}
    {rest : KeyPath} :
    findPart (some (.object entries)) (key :: rest) =
      (findPart (Fields.find? key entries) rest).mapError PathFault.below := by
  cases hf : Fields.find? key entries with
  | some inner => rw [findPart, find, child, hf, findPart]
  | none => cases rest <;> simp [findPart, find, child, hf, Except.mapError, PathFault.below]

namespace Verdict

theorem paths_ofPaths (paths : List KeyPath) : (ofPaths paths).paths = paths := by
  cases paths <;> rfl

theorem ofPaths_eq_valid_iff {paths : List KeyPath} : ofPaths paths = .valid ↔ paths = [] := by
  cases paths <;> simp [ofPaths]

theorem ofPaths_ne_invalid_nil (paths : List KeyPath) : ofPaths paths ≠ .invalid [] := by
  cases paths <;> simp [ofPaths]

end Verdict

namespace Schema

variable {schema inner : Schema} {part found : Option Value} {path parent rest : KeyPath}
  {fields : List (String × Schema)} {fallback : Value} {entries : List (String × Value)}
  {key : String}

/-- On the whole way to a path the schema declares records and the value has objects. -/
def Walks (schema : Schema) (part : Option Value) (path : KeyPath) : Prop :=
  ∀ before, before <+: path → before ≠ path →
    ∃ fields fallback entries, schema.declared before = .ok (.record fields fallback) ∧
      Value.findPart part before = .ok (some (.object entries))

/-- A place at which a value, or its absence, offends against a schema. -/
inductive Offends (schema : Schema) (part : Option Value) : KeyPath → Prop
  /-- What stands at a declared place, be it nothing, is failed as a whole by the schema declared
  there. -/
  | rejected {path : KeyPath} {inner : Schema} {found : Option Value}
      (hw : schema.Walks part path) (hd : schema.declared path = .ok inner)
      (hf : Value.findPart part path = .ok found) (hr : inner.failures found = [KeyPath.root]) :
      Offends schema part path
  /-- An object has a key that its record does not declare. -/
  | undeclared {parent : KeyPath} {key : String} {fields : List (String × Schema)}
      {fallback : Value} {entries : List (String × Value)}
      (hw : schema.Walks part (parent ++ [key]))
      (hd : schema.declared parent = .ok (.record fields fallback))
      (hf : Value.findPart part parent = .ok (some (.object entries)))
      (hk : key ∈ Fields.names entries) (hno : Fields.find? key fields = none) :
      Offends schema part (parent ++ [key])

/-- Nothing lies on the way to the root. -/
theorem walks_root : schema.Walks part KeyPath.root :=
  fun _ hp hne => absurd (List.prefix_nil.mp hp) hne

/-- The way to what lies below a field goes through the record's object. -/
theorem Walks.cons (hf : Fields.find? key fields = some inner)
    (h : inner.Walks (Fields.find? key entries) rest) :
    (record fields fallback).Walks (some (.object entries)) (key :: rest) := by
  intro before hp hne
  cases before with
  | nil => exact ⟨fields, fallback, entries, rfl, rfl⟩
  | cons first before =>
    obtain ⟨rfl, hrest⟩ := List.cons_prefix_cons.mp hp
    obtain ⟨others, otherwise, inside, hd, hi⟩ := h before hrest fun he => hne (he ▸ rfl)
    refine ⟨others, otherwise, inside, ?_, ?_⟩
    · exact declared_cons_eq_ok_iff.mpr ⟨fields, fallback, inner, rfl, hf, hd⟩
    · rw [Value.findPart_object_cons, hi]
      rfl

/-- A way that begins with a key begins at a record and an object. -/
theorem Walks.exists_record (h : schema.Walks part (key :: rest)) :
    ∃ fields fallback entries, schema = .record fields fallback ∧
      part = some (.object entries) := by
  obtain ⟨fields, fallback, entries, hd, hf⟩ := h [] List.nil_prefix (by simp)
  obtain rfl : schema = .record fields fallback := by simpa [declared] using hd
  cases part with
  | none => cases hf
  | some value =>
    obtain rfl : value = .object entries := by simpa [Value.findPart, Value.find] using hf
    exact ⟨fields, fallback, entries, rfl, rfl⟩

/-- Behind its first key the way leads through what the field declares and what stands there. -/
theorem Walks.tail (hf : Fields.find? key fields = some inner)
    (h : (record fields fallback).Walks (some (.object entries)) (key :: rest)) :
    inner.Walks (Fields.find? key entries) rest := by
  intro before hp hne
  obtain ⟨others, otherwise, inside, hd, hi⟩ :=
    h (key :: before) (List.cons_prefix_cons.mpr ⟨rfl, hp⟩) fun he => hne (List.cons.inj he).2
  obtain ⟨_, _, field, he, hfield, hrest⟩ := declared_cons_eq_ok_iff.mp hd
  obtain ⟨rfl, _⟩ := Schema.record.inj he
  obtain rfl : inner = field := Option.some.inj (hf.symm.trans hfield)
  rw [Value.findPart_object_cons] at hi
  exact ⟨others, otherwise, inside, hrest, mapError_eq_ok_iff.mp hi⟩

/-- What offends below a field offends below its name. -/
theorem Offends.cons (hf : Fields.find? key fields = some inner)
    (h : inner.Offends (Fields.find? key entries) rest) :
    (record fields fallback).Offends (some (.object entries)) (key :: rest) := by
  cases h with
  | rejected hw hd hfound hr =>
    refine .rejected (hw.cons hf) (declared_cons_eq_ok_iff.mpr ⟨_, _, _, rfl, hf, hd⟩) ?_ hr
    rw [Value.findPart_object_cons, hfound]
    rfl
  | @undeclared parent last others otherwise inside hw hd hfound hk hno =>
    rw [← List.cons_append]
    refine .undeclared (by simpa using hw.cons hf)
      (declared_cons_eq_ok_iff.mpr ⟨_, _, _, rfl, hf, hd⟩) ?_ hk hno
    rw [Value.findPart_object_cons, hfound]
    rfl

/-- An undeclared key of an object offends. -/
theorem offends_of_undeclared (hk : key ∈ Fields.names entries)
    (hno : Fields.find? key fields = none) :
    (record fields fallback).Offends (some (.object entries)) [key] := by
  change (record fields fallback).Offends (some (.object entries)) ([] ++ [key])
  refine .undeclared (fun before hp hne => ?_) rfl rfl hk hno
  obtain rfl : before = [] :=
    (List.prefix_concat_iff.mp hp).elim (fun he => absurd he hne) List.prefix_nil.mp
  exact ⟨fields, fallback, entries, rfl, rfl⟩

/-- Every reported place offends. -/
theorem offends_of_mem_failures (hw : schema.WellFormed) (hm : path ∈ schema.failures part) :
    schema.Offends part path := by
  induction path generalizing schema part with
  | nil => exact .rejected walks_root rfl (by cases part <;> rfl) (failures_eq_of_root_mem hm)
  | cons key rest ih =>
    rcases failures_cases schema part with hnone | hroot | ⟨fields, fallback, entries, rfl, rfl⟩
    · rw [hnone] at hm
      cases hm
    · rw [hroot] at hm
      cases List.mem_singleton.mp hm
    · rw [failures_record_object, List.mem_append] at hm
      rcases hm with hm | hm
      · obtain ⟨name, hname, he⟩ := List.mem_map.mp hm
        obtain ⟨rfl, rfl⟩ := List.cons.inj he
        obtain ⟨hk, hno⟩ := List.mem_filter.mp hname
        exact offends_of_undeclared hk (by simpa [Fields.has] using hno)
      · obtain ⟨⟨name, field⟩, hfield, below, hbelow, he⟩ := mem_fieldFailures_iff.mp hm
        obtain ⟨rfl, rfl⟩ := List.cons.inj he
        exact (ih (hw.field hfield) hbelow).cons (Fields.find?_of_mem hw.distinct hfield)

/-- The failures of one field are those below its name. -/
theorem filter_fieldFailures (hd : Fields.Distinct fields)
    (hf : Fields.find? key fields = some inner) :
    (fieldFailures fields entries).filter (KeyPath.isAncestorOf (key :: rest)) =
      ((inner.failures (Fields.find? key entries)).filter (KeyPath.isAncestorOf rest)).map
        (key :: ·) := by
  induction fields with
  | nil => cases hf
  | cons head others ih =>
    obtain ⟨name, field⟩ := head
    obtain ⟨hfresh, hothers⟩ := List.nodup_cons.mp hd
    rw [fieldFailures, List.filter_append, List.filter_map]
    by_cases hn : name = key
    · subst hn
      obtain rfl : field = inner := by simpa [Fields.find?] using hf
      have hnone : (fieldFailures others entries).filter (KeyPath.isAncestorOf (name :: rest)) =
          [] := by
        refine List.filter_eq_nil_iff.mpr fun place hm => ?_
        obtain ⟨other, hother, below, _, rfl⟩ := mem_fieldFailures_iff.mp hm
        have hmem : other.1 ∈ Fields.names others := Fields.mem_names_of_mem hother
        have hne : name ≠ other.1 := fun he => hfresh (he ▸ hmem)
        simp [KeyPath.isAncestorOf_cons, hne]
      rw [hnone, List.append_nil]
      congr 2
      funext below
      simp [KeyPath.isAncestorOf_cons]
    · rw [Fields.find?, if_neg hn] at hf
      have hne : key ≠ name := fun he => hn he.symm
      have hnone : (field.failures (Fields.find? name entries)).filter
          (KeyPath.isAncestorOf (key :: rest) ∘ (name :: ·)) = [] :=
        List.filter_eq_nil_iff.mpr fun below _ => by simp [KeyPath.isAncestorOf_cons, hne]
      rw [hnone, List.map_nil, List.nil_append]
      exact ih hothers hf

/-- Below a place to which records and objects lead, a value fails where the part there fails what
is declared for it, in the same order. -/
theorem filter_failures (hw : schema.WellFormed) (hwalks : schema.Walks part path)
    (hd : schema.declared path = .ok inner) (hf : Value.findPart part path = .ok found) :
    (schema.failures part).filter path.isAncestorOf = (inner.failures found).map (path ++ ·) := by
  induction path generalizing schema part with
  | nil =>
    obtain rfl : schema = inner := by simpa [declared] using hd
    obtain rfl : part = found := by
      cases part <;> simpa [Value.findPart, Value.find] using hf
    simp [KeyPath.isAncestorOf]
  | cons key rest ih =>
    obtain ⟨fields, fallback, entries, rfl, rfl⟩ := hwalks.exists_record
    obtain ⟨_, _, field, he, hfield, hrest⟩ := declared_cons_eq_ok_iff.mp hd
    obtain ⟨rfl, _⟩ := Schema.record.inj he
    rw [Value.findPart_object_cons, mapError_eq_ok_iff] at hf
    have hundeclared : ((undeclaredKeys fields entries).map fun key => [key]).filter
        (KeyPath.isAncestorOf (key :: rest)) = [] := by
      refine List.filter_eq_nil_iff.mpr fun place hm => ?_
      obtain ⟨name, hname, rfl⟩ := List.mem_map.mp hm
      have hne : key ≠ name := by
        rintro rfl
        simpa [Fields.has, hfield] using (List.mem_filter.mp hname).2
      simp [KeyPath.isAncestorOf_cons, hne]
    rw [failures_record_object, List.filter_append, hundeclared, List.nil_append,
      filter_fieldFailures hw.distinct hfield,
      ih (hw.field (Fields.mem_of_find? hfield)) (hwalks.tail hfield) hrest hf, List.map_map]
    rfl

/-- Every offending place is reported. -/
theorem Offends.mem_failures (hw : schema.WellFormed) (h : schema.Offends part path) :
    path ∈ schema.failures part := by
  cases h with
  | rejected hwalks hd hf hr =>
    have hbelow := filter_failures hw hwalks hd hf
    have hm : path ∈ (schema.failures part).filter path.isAncestorOf := by
      rw [hbelow, hr]
      simp [KeyPath.root]
    exact (List.mem_filter.mp hm).1
  | @undeclared parent key fields fallback entries hwalks hd hf hk hno =>
    have hway : schema.Walks part parent := fun before hp hne =>
      hwalks before (hp.trans (List.prefix_append _ _)) fun he => by
        subst he
        exact hne (hp.eq_of_length_le (by simp))
    have hbelow := filter_failures hw hway hd hf
    have hm : parent ++ [key] ∈ (schema.failures part).filter parent.isAncestorOf := by
      rw [hbelow]
      exact List.mem_map_of_mem (singleton_mem_failures hk hno)
    exact (List.mem_filter.mp hm).1

/-- The failures of the fields are those of each field, one field after another. -/
theorem fieldFailures_eq_flatMap :
    fieldFailures fields entries = fields.flatMap fun field =>
      (field.2.failures (Fields.find? field.1 entries)).map (field.1 :: ·) := by
  induction fields with
  | nil => rfl
  | cons field rest ih => rw [fieldFailures, ih, List.flatMap_cons]

/-- What a list of places owes to be the report on a value, or on its absence. -/
structure Reports (schema : Schema) (part : Option Value) (paths : List KeyPath) : Prop where
  /-- The reported places are the offending ones. -/
  mem_iff : ∀ path, path ∈ paths ↔ schema.Offends part path
  /-- No place is reported twice. -/
  nodup : paths.Nodup
  /-- No reported place lies on the way to another. -/
  apart : ∀ path ∈ paths, ∀ other ∈ paths, path ≠ other → path.isAncestorOf other = false
  /-- Below a record the undeclared keys come first, in the order of the object, and then what the
  fields report, in the order of their declaration. -/
  order : ∀ parent fields fallback entries, schema.Walks part parent →
    schema.declared parent = .ok (.record fields fallback) →
    Value.findPart part parent = .ok (some (.object entries)) →
    paths.filter parent.isAncestorOf =
      ((Fields.names entries).filter fun key => !Fields.has key fields).map
          (fun key => parent ++ [key]) ++
        fields.flatMap fun field => (field.2.failures (Fields.find? field.1 entries)).map
          fun rest => parent ++ field.1 :: rest

/-- The failures of a well-formed value, or of its absence, are the report on it. -/
theorem reports_failures (hw : schema.WellFormed)
    (hv : ∀ value, part = some value → value.WellFormed) :
    schema.Reports part (schema.failures part) := by
  have hapart := pairwise_failures hw hv
  have hsymm : Std.Symm KeyPath.Apart := ⟨fun _ _ => KeyPath.Apart.symm⟩
  refine ⟨fun path => ⟨offends_of_mem_failures hw, Offends.mem_failures hw⟩, ?_, ?_, ?_⟩
  · refine hapart.imp fun {path other} ha he => ?_
    subst he
    exact (KeyPath.apart_iff.mp ha).1 (List.prefix_refl path)
  · exact fun path hm other hother hne => (hapart.forall hm hother hne).1
  · intro parent fields fallback entries hwalks hd hf
    rw [filter_failures hw hwalks hd hf, failures_record_object, fieldFailures_eq_flatMap,
      List.map_append, List.map_map, List.map_flatMap]
    simp only [List.map_map]
    rfl

/-- A built schema reports on every value, and on its absence, the offending places: each once,
apart from one another and in order. It finds the value valid if there are none, and otherwise
invalid at a list of places that is not empty. -/
theorem validate_reports (hb : schema.Built) (hv : ∀ value, part = some value → value.WellFormed) :
    schema.Reports part (schema.validate part).paths ∧
      (schema.validate part = .valid ↔ ∀ path, ¬schema.Offends part path) ∧
      schema.validate part ≠ .invalid [] := by
  have hreports := reports_failures hb.wellFormed hv
  rw [validate, Verdict.paths_ofPaths, Verdict.ofPaths_eq_valid_iff]
  refine ⟨hreports, ?_, Verdict.ofPaths_ne_invalid_nil _⟩
  rw [List.eq_nil_iff_forall_not_mem]
  exact forall_congr' fun path => not_congr (hreports.mem_iff path)

/-- Of a room with an unknown key, and with a text for the switch of its lamp, both places are
reported, and no others. -/
theorem validate_reports_of_room :
    ∃ value : Value, roomSchema.Built ∧ value.WellFormed ∧
      roomSchema.validate (some value) = .invalid [["x"], ["lamp", "on"]] ∧
      roomSchema.Reports (some value) [["x"], ["lamp", "on"]] ∧
      (roomSchema.validate (some value) = .valid ↔
        ∀ path, ¬roomSchema.Offends (some value) path) ∧
      roomSchema.validate (some value) ≠ .invalid [] := by
  let value : Value := .object [("lamp", .object [("on", .string "yes")]), ("x", .null)]
  have hv : value.WellFormed := by
    simp [value, Value.WellFormed, Value.WellFormedEntries, Fields.Distinct]
  have hverdict : roomSchema.validate (some value) = .invalid [["x"], ["lamp", "on"]] := by
    decide
  have hpart : ∀ other, some value = some other → other.WellFormed :=
    fun _ he => Option.some.inj he ▸ hv
  obtain ⟨hreports, hvalid, hinvalid⟩ := validate_reports built_roomSchema hpart
  rw [hverdict] at hreports
  exact ⟨value, built_roomSchema, hv, hverdict, hreports, hvalid, hinvalid⟩

end Schema

end ValidatedStore
