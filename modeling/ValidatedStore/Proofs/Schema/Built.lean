import ValidatedStore.Proofs.Schema.Acceptance
import ValidatedStore.Proofs.Value.Shapes
import ValidatedStore.Schema.Inference

/-!
# Schemas that come out of drafts

A built schema is one that some sequence of drafts produced, its parts first. Every schema that
occurs in a built one accepts its own default, absence included, and declares its fields under
distinct names. These two facts are the well-formedness of schemas, and all later results about
records, repairs and defaults start from it.
-/

namespace ValidatedStore

namespace Schema

/-- The first schema occurs in the second, at any depth. -/
inductive Within : Schema → Schema → Prop
  /-- A schema occurs in itself. -/
  | refl (schema : Schema) : Within schema schema
  /-- What occurs in a field occurs in the record. -/
  | field {inner field : Schema} {name : String} {fields : List (String × Schema)}
      {fallback : Value} (hm : (name, field) ∈ fields) (hw : Within inner field) :
      Within inner (.record fields fallback)
  /-- What occurs in the items' schema occurs in the list. -/
  | item {inner item : Schema} {fallback : Value} (hw : Within inner item) :
      Within inner (.list item fallback)
  /-- What occurs in a member occurs in the union. -/
  | member {inner member : Schema} {members : List Schema} {fallback : Option Value}
      (hm : member ∈ members) (hw : Within inner member) : Within inner (.union members fallback)

/-- At every depth, defaults are accepted and the names of fields are distinct. -/
def WellFormed (schema : Schema) : Prop :=
  ∀ inner, Within inner schema → inner.accepts inner.default? = true ∧
    ∀ fields fallback, inner = .record fields fallback → Fields.Distinct fields

variable {schema inner : Schema} {fields : List (String × Schema)} {fallback : Value}

theorem WellFormed.accepts_default (h : schema.WellFormed) :
    schema.accepts schema.default? = true :=
  (h schema (.refl schema)).1

theorem WellFormed.distinct (h : (record fields fallback).WellFormed) : Fields.Distinct fields :=
  (h _ (.refl _)).2 fields fallback rfl

theorem WellFormed.field (h : (record fields fallback).WellFormed) {field : String × Schema}
    (hm : field ∈ fields) : field.2.WellFormed :=
  fun inner hw => h inner (.field hm hw)

/-- What a well-formed schema declares is well formed. -/
theorem WellFormed.declared {path : KeyPath} (h : schema.WellFormed)
    (hd : schema.declared path = .ok inner) : inner.WellFormed := by
  induction path generalizing schema with
  | nil =>
    obtain rfl : schema = inner := by simpa [Schema.declared] using hd
    exact h
  | cons key rest ih =>
    obtain ⟨fields, fallback, field, rfl, hf, hrest⟩ := declared_cons_eq_ok_iff.mp hd
    exact ih (h.field (Fields.mem_of_find? hf)) hrest

/-- The schemas that drafts produce from given parts and options. -/
inductive Built : Schema → Prop
  /-- A schema of all values. -/
  | any {fallback : Option Value} {schema : Schema} (hb : buildAny fallback = .ok schema) :
      Built schema
  /-- A schema of truth values. -/
  | boolean {fallback : Option Value} {schema : Schema} (hb : buildBoolean fallback = .ok schema) :
      Built schema
  /-- A schema of texts. -/
  | text {draft : TextDraft} {schema : Schema} (hb : draft.build = .ok schema) : Built schema
  /-- A schema of numbers. -/
  | number {draft : NumberDraft} {schema : Schema} (hb : draft.build = .ok schema) : Built schema
  /-- A schema of null and absence. -/
  | nullable {draft : NullableDraft} {schema : Schema} (hb : draft.build = .ok schema) :
      Built schema
  /-- A schema of all objects. -/
  | openRecord {fallback : Option Value} {schema : Schema}
      (hb : RecordDraft.build { fallback := fallback } = .ok schema) : Built schema
  /-- A schema of objects, its fields declared one after another, repetitions included. -/
  | record {declarations : List (String × Schema)} {fallback : Option Value} {schema : Schema}
      (hparts : ∀ declaration ∈ declarations, Built declaration.2)
      (hb : (RecordDraft.declareAll declarations { fallback := fallback }).build = .ok schema) :
      Built schema
  /-- A schema of arrays. -/
  | list {item : Schema} {fallback : Option Value} {schema : Schema} (hpart : Built item)
      (hb : buildList item fallback = .ok schema) : Built schema
  /-- A schema of alternatives. -/
  | union {members : List Schema} {fallback : Option Value} {schema : Schema}
      (hparts : ∀ member ∈ members, Built member)
      (hb : buildUnion members fallback = .ok schema) : Built schema

/-- A schema passes its own check exactly when it accepts its default. -/
theorem checked_eq_ok_iff {result : Schema} :
    schema.checked = .ok result ↔ schema = result ∧ schema.accepts schema.default? = true := by
  rw [accepts_iff, checked]
  split
  next h => simp [h]
  next path paths h => simp [h]

/-- A schema without parts that accepts its default is well formed. -/
theorem wellFormed_of_no_parts (hc : schema.checked = .ok inner)
    (hno : ∀ part, Within part schema → part = schema)
    (hrec : ∀ fields fallback, schema ≠ .record fields fallback) : inner.WellFormed := by
  obtain ⟨rfl, ha⟩ := checked_eq_ok_iff.mp hc
  intro part hw
  obtain rfl := hno part hw
  exact ⟨ha, fun fields fallback he => absurd he (hrec fields fallback)⟩

/-- A draft of texts ends in the check of one schema of texts. -/
theorem exists_checked_of_text {draft : TextDraft} (hb : draft.build = .ok schema) :
    ∃ rule fallback, (Schema.string rule fallback).checked = .ok schema := by
  unfold TextDraft.build at hb
  dsimp only at hb
  split at hb
  next =>
    split at hb
    next => exact ⟨_, _, hb⟩
    next =>
      split at hb
      next => cases hb
      next => exact ⟨_, _, hb⟩
  next =>
    split at hb
    next => cases hb
    next =>
      split at hb
      next => exact ⟨_, _, hb⟩
      next =>
        split at hb
        next => cases hb
        next => exact ⟨_, _, hb⟩

theorem exists_checked_of_number {draft : NumberDraft} (hb : draft.build = .ok schema) :
    ∃ rule fallback, (Schema.number rule fallback).checked = .ok schema := by
  unfold NumberDraft.build at hb
  split at hb
  next => exact ⟨_, _, hb⟩
  next => cases hb

theorem checked_of_nullable {draft : NullableDraft} (hb : draft.build = .ok schema) :
    (Schema.nullable draft.null draft.absent).checked = .ok schema := by
  unfold NullableDraft.build at hb
  split at hb
  next => exact hb
  next => cases hb

/-- A union ends in the check of its members with some default. -/
theorem exists_checked_of_union {members : List Schema} {fallback : Option Value}
    (hb : buildUnion members fallback = .ok schema) :
    ∃ fallback, (Schema.union members fallback).checked = .ok schema := by
  cases members with
  | nil => cases hb
  | cons first rest => exact ⟨_, hb⟩

/-- Every built schema is well formed at every depth. -/
theorem Built.wellFormed (h : Built schema) : schema.WellFormed := by
  induction h with
  | any hb => exact wellFormed_of_no_parts hb (fun _ hw => by cases hw; rfl) (by simp)
  | boolean hb => exact wellFormed_of_no_parts hb (fun _ hw => by cases hw; rfl) (by simp)
  | text hb =>
    obtain ⟨rule, fallback, hc⟩ := exists_checked_of_text hb
    exact wellFormed_of_no_parts hc (fun _ hw => by cases hw; rfl) (by simp)
  | number hb =>
    obtain ⟨rule, fallback, hc⟩ := exists_checked_of_number hb
    exact wellFormed_of_no_parts hc (fun _ hw => by cases hw; rfl) (by simp)
  | nullable hb =>
    exact wellFormed_of_no_parts (checked_of_nullable hb) (fun _ hw => by cases hw; rfl) (by simp)
  | openRecord hb => exact wellFormed_of_no_parts hb (fun _ hw => by cases hw; rfl) (by simp)
  | @record declarations fallback schema hparts hb ih =>
    obtain ⟨rfl, ha⟩ := checked_eq_ok_iff.mp hb
    intro part hw
    cases hw with
    | refl =>
      refine ⟨ha, fun fields fallback he => ?_⟩
      obtain ⟨rfl, _⟩ := Schema.record.inj he
      exact Fields.distinct_insertAll_nil declarations
    | field hm hw =>
      rcases Fields.mem_insertAll hm with hm | hm
      · cases hm
      · exact ih _ hm _ hw
  | list hpart hb ih =>
    obtain ⟨rfl, ha⟩ := checked_eq_ok_iff.mp hb
    intro part hw
    cases hw with
    | refl => exact ⟨ha, by simp⟩
    | item hw => exact ih _ hw
  | union hparts hb ih =>
    obtain ⟨fallback, hc⟩ := exists_checked_of_union hb
    obtain ⟨rfl, ha⟩ := checked_eq_ok_iff.mp hc
    intro part hw
    cases hw with
    | refl => exact ⟨ha, by simp⟩
    | member hm hw => exact ih _ hm _ hw

/-- Declaring fields in two goes is declaring them in one. -/
theorem declareAll_declareAll (first second : List (String × Schema)) (draft : RecordDraft) :
    (draft.declareAll first).declareAll second = draft.declareAll (first ++ second) := by
  simp [RecordDraft.declareAll, Fields.insertAll, List.foldl_append]

/-- Declaring one field is declaring a list of one. -/
theorem declare_eq_declareAll (name : String) (schema : Schema) (draft : RecordDraft) :
    draft.declare name schema = draft.declareAll [(name, schema)] := by
  simp [RecordDraft.declare, RecordDraft.declareAll, Fields.insertAll]

/-- A sequence of two steps succeeds if both do. -/
theorem bind_eq_ok_iff {ε α β : Type} {first : Except ε α} {next : α → Except ε β} {b : β} :
    first >>= next = .ok b ↔ ∃ a, first = .ok a ∧ next a = .ok b := by
  cases first <;> simp [bind, Except.bind]

/-- The schemas of the items of an example are those of each item. -/
theorem ofItems_eq_ok_iff {items : List Value} {members : List Schema} :
    ofItems items = .ok members ↔
      List.Forall₂ (fun item member => ofExample item = .ok member) items members := by
  induction items generalizing members with
  | nil => rw [ofItems, Except.ok.injEq, List.forall₂_nil_left_iff, eq_comm]
  | cons item rest ih =>
    simp only [ofItems, bind_eq_ok_iff, pure, Except.pure, Except.ok.injEq, ih,
      List.forall₂_cons_left_iff]
    constructor
    · rintro ⟨first, hfirst, others, hothers, rfl⟩
      exact ⟨first, others, hfirst, hothers, rfl⟩
    · rintro ⟨first, others, hfirst, hothers, rfl⟩
      exact ⟨first, hfirst, others, hothers, rfl⟩

/-- The schemas of the entries of an example are those of each entry, under its name. -/
theorem ofEntries_eq_ok_iff {entries : List (String × Value)} :
    ofEntries entries = .ok fields ↔
      Fields.Paired (fun value field => ofExample value = .ok field) entries fields := by
  induction entries generalizing fields with
  | nil => rw [ofEntries, Except.ok.injEq, Fields.Paired, List.forall₂_nil_left_iff, eq_comm]
  | cons entry rest ih =>
    obtain ⟨name, value⟩ := entry
    simp only [ofEntries, bind_eq_ok_iff, pure, Except.pure, Except.ok.injEq, ih, Fields.Paired,
      List.forall₂_cons_left_iff]
    constructor
    · rintro ⟨first, hfirst, others, hothers, rfl⟩
      exact ⟨(name, first), others, ⟨rfl, hfirst⟩, hothers, rfl⟩
    · rintro ⟨⟨_, first⟩, others, ⟨rfl, hfirst⟩, hothers, rfl⟩
      exact ⟨first, hfirst, others, hothers, rfl⟩

/-- An example array gives a list whose items are of any kind, or like some item of the example. -/
theorem ofExample_array_iff {items : List Value} :
    ofExample (.array items) = .ok schema ↔ ∃ members item, ofItems items = .ok members ∧
      (if members.isEmpty then buildAny none else buildUnion members none) = .ok item ∧
      buildList item (some (.array items)) = .ok schema := by
  rw [ofExample, bind_eq_ok_iff]
  refine exists_congr fun members => ?_
  cases members with
  | nil => simp [bind_eq_ok_iff]
  | cons first rest => simp [bind_eq_ok_iff]

/-- An example object gives a record of the schemas of its entries. -/
theorem ofExample_object_iff {entries : List (String × Value)} :
    ofExample (.object entries) = .ok schema ↔ ∃ fields, ofEntries entries = .ok fields ∧
      (RecordDraft.declareAll fields { fallback := some (.object entries) }).build =
        .ok schema := by
  rw [ofExample, bind_eq_ok_iff]

/-- The schema of a value's shape is built. -/
theorem built_ofExample {value : Value} (h : ofExample value = .ok schema) : schema.Built := by
  induction value using Value.induction_on_parts generalizing schema with
  | null => rw [ofExample] at h; exact .nullable h
  | bool b => rw [ofExample] at h; exact .boolean h
  | number n => rw [ofExample] at h; exact .number h
  | string s => rw [ofExample] at h; exact .text h
  | array items ih =>
    obtain ⟨members, item, hm, hi, hl⟩ := ofExample_array_iff.mp h
    refine .list ?_ hl
    split at hi
    next => exact .any hi
    next =>
      refine .union (fun member hmember => ?_) hi
      obtain ⟨item, hitem, hschema⟩ := exists_of_mem_right (ofItems_eq_ok_iff.mp hm) hmember
      exact ih item hitem hschema
  | object entries ih =>
    obtain ⟨fields, hf, hr⟩ := ofExample_object_iff.mp h
    refine .record (fun field hfield => ?_) hr
    obtain ⟨entry, hentry, _, hschema⟩ := exists_of_mem_right (ofEntries_eq_ok_iff.mp hf) hfield
    exact ih entry hentry hschema

/-- The rule for the texts of an example has no bounds. -/
def anyText : TextRule := ⟨0, none, none⟩

/-- The rule for the numbers of an example has no bounds. -/
def anyNumber : NumberRule := ⟨.infinite true, .infinite false, false⟩

theorem accepts_anyText (s : String) : anyText.accepts s = true := by
  simp [anyText, TextRule.accepts]

theorem nearest_ne_undefined (negative : Bool) (num den : Nat) :
    Binary64.Extended.nearest negative num den ≠ .undefined := by
  unfold Binary64.Extended.nearest
  split <;> simp

/-- Every number compares with the infinities. -/
theorem toExtended_ne_undefined (n : Number) : n.toExtended ≠ .undefined := by
  cases n with
  | integer i hi => exact nearest_ne_undefined _ _ _
  | double x => simp [Number.toExtended]

theorem accepts_anyNumber (n : Number) : anyNumber.accepts n = true := by
  have hdefined := toExtended_ne_undefined n
  unfold NumberRule.accepts anyNumber
  dsimp only
  cases hx : n.toExtended with
  | finite x => rfl
  | infinite negative => cases negative <;> rfl
  | undefined => exact absurd hx hdefined

theorem ofExample_null : ofExample .null = .ok (.nullable true false) := rfl

theorem ofExample_bool (b : Bool) : ofExample (.bool b) = .ok (.boolean (.bool b)) := rfl

theorem ofExample_string (s : String) :
    ofExample (.string s) = .ok (.string anyText (.string s)) :=
  checked_eq_ok_iff.mpr ⟨rfl, accepts_string_iff.mpr ⟨s, rfl, accepts_anyText s⟩⟩

theorem ofExample_number (n : Number) :
    ofExample (.number n) = .ok (.number anyNumber (.number n)) :=
  checked_eq_ok_iff.mpr ⟨rfl, accepts_number_iff.mpr ⟨n, rfl, accepts_anyNumber n⟩⟩

/-- The schema of a value's shape has the value as its default. -/
theorem default_ofExample {value : Value} (h : ofExample value = .ok schema) :
    schema.default? = some value := by
  cases value with
  | null =>
    obtain rfl := Except.ok.inj (ofExample_null.symm.trans h)
    rfl
  | bool b =>
    obtain rfl := Except.ok.inj ((ofExample_bool b).symm.trans h)
    rfl
  | string s =>
    obtain rfl := Except.ok.inj ((ofExample_string s).symm.trans h)
    rfl
  | number n =>
    obtain rfl := Except.ok.inj ((ofExample_number n).symm.trans h)
    rfl
  | array items =>
    obtain ⟨_, _, _, _, hl⟩ := ofExample_array_iff.mp h
    obtain ⟨rfl, _⟩ := checked_eq_ok_iff.mp hl
    rfl
  | object entries =>
    obtain ⟨_, _, hr⟩ := ofExample_object_iff.mp h
    obtain ⟨rfl, _⟩ := checked_eq_ok_iff.mp hr
    rfl

/-- The schema inferred from an example is built. -/
theorem built_infer {example? : Option Value} (h : infer example? = .ok schema) :
    schema.Built := by
  cases example? with
  | none => exact .nullable h
  | some value => exact built_ofExample h

end Schema

end ValidatedStore
