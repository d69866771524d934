import Mathlib.Data.List.Induction
import ValidatedStore.Proofs.Schema.Built

/-!
# What drafts declare and when they build

A draft of a record takes its calls one by one. Its fields stand in the order in which they were
declared first, each with the schema declared for it last, whatever the calls were. Without a default
of their own, records, lists and unions of built parts always build: the default that is put together
from the defaults of the parts is accepted, since every part accepts its own. By induction on how a
schema was built, all of this holds at every depth of it.
-/

namespace ValidatedStore

namespace Fields

variable {α : Type} {name : String} {fields declarations : Fields α}

/-- The fields stand in the order of their first declarations, each as it was declared last. -/
structure DeclaredBy (declarations fields : Fields α) : Prop where
  /-- The names in order of their first declarations. -/
  names_eq : names fields = (names declarations).eraseDups
  /-- The last declaration of a name is the one that counts. -/
  find?_eq : ∀ name, find? name fields = find? name declarations.reverse

/-- Declared one after another, fields stand in the order of their first declarations, each as it was
declared last. -/
theorem declaredBy_insertAll (declarations : Fields α) :
    DeclaredBy declarations (insertAll [] declarations) := by
  induction declarations using List.reverseRecOn with
  | nil => exact ⟨rfl, fun _ => rfl⟩
  | append_singleton earlier last ih =>
    have hlast : insertAll [] (earlier ++ [last]) =
        insert last.1 last.2 (insertAll [] earlier) := by
      rw [insertAll, List.foldl_append]
      rfl
    refine ⟨?_, fun name => ?_⟩
    · have hnames : names (earlier ++ [last]) = names earlier ++ [last.1] := by simp [names]
      rw [hlast, names_insert, ih.names_eq, hnames, List.eraseDups_append]
      by_cases hm : last.1 ∈ names earlier <;> simp [hm, List.removeAll, List.eraseDups_cons]
    · rw [hlast, find?_insert, ih.find?_eq, List.reverse_append]
      rfl

end Fields

/-- A call on a draft of a record. -/
inductive RecordDraft.Call
  /-- Declare one field. -/
  | declare (name : String) (schema : Schema)
  /-- Declare fields one after another. -/
  | declareAll (fields : List (String × Schema))
  /-- Give the default. -/
  | fallback (value : Value)

namespace RecordDraft

variable {schema : Schema} {calls : List Call}

/-- The fields that a call declares. -/
def Call.declarations : Call → List (String × Schema)
  | .declare name schema => [(name, schema)]
  | .declareAll fields => fields
  | .fallback _ => []

/-- The draft after one more call. -/
def after (draft : RecordDraft) : Call → RecordDraft
  | .declare name schema => draft.declare name schema
  | .declareAll fields => draft.declareAll fields
  | .fallback value => { draft with fallback := some value }

/-- The draft after a sequence of calls. -/
def ofCalls (calls : List Call) : RecordDraft := calls.foldl after {}

/-- All fields that a sequence of calls declares, repetitions included. -/
def declarations (calls : List Call) : List (String × Schema) := calls.flatMap Call.declarations

/-- Only what the calls declare counts, and the default they give, if any: as long as no call
declares fields the record stays open. -/
theorem ofCalls_cases (calls : List Call) :
    ∃ given, (∀ value, given = some value → Call.fallback value ∈ calls) ∧
      (declarations calls = [] ∧ ofCalls calls = { fallback := given } ∨
        ofCalls calls = declareAll (declarations calls) { fallback := given }) := by
  induction calls using List.reverseRecOn with
  | nil => exact ⟨none, by simp, .inl ⟨rfl, rfl⟩⟩
  | append_singleton earlier last ih =>
    obtain ⟨given, hgiven, ih⟩ := ih
    have hdraft : ofCalls (earlier ++ [last]) = (ofCalls earlier).after last := by
      simp [ofCalls]
    have hdeclared : declarations (earlier ++ [last]) =
        declarations earlier ++ last.declarations := by
      simp [declarations]
    have hkept : ∀ value, given = some value → Call.fallback value ∈ earlier ++ [last] :=
      fun value hv => List.mem_append_left _ (hgiven value hv)
    rw [hdraft, hdeclared]
    cases last with
    | declare name schema =>
      refine ⟨given, hkept, .inr ?_⟩
      rcases ih with ⟨hnone, hd⟩ | hd
      · rw [hd, hnone, after, Schema.declare_eq_declareAll]
        rfl
      · rw [hd, after, Schema.declare_eq_declareAll, Schema.declareAll_declareAll]
        rfl
    | declareAll fields =>
      refine ⟨given, hkept, .inr ?_⟩
      rcases ih with ⟨hnone, hd⟩ | hd
      · rw [hd, hnone]
        rfl
      · rw [hd, after, Schema.declareAll_declareAll]
        rfl
    | fallback value =>
      refine ⟨some value, fun other he => ?_, ?_⟩
      · obtain rfl := Option.some.inj he
        simp
      · rw [Call.declarations, List.append_nil]
        exact ih.imp (fun h => ⟨h.1, by rw [h.2]; rfl⟩) fun h => by rw [h]; rfl

end RecordDraft

namespace Schema

variable {schema inner first : Schema} {fields : Fields Schema} {fallback : Value}
  {name : String} {calls : List RecordDraft.Call}

/-- What calls on a draft make of built parts is built. -/
theorem built_of_calls (hparts : ∀ declaration ∈ RecordDraft.declarations calls, declaration.2.Built)
    (hb : (RecordDraft.ofCalls calls).build = .ok schema) : schema.Built := by
  obtain ⟨given, _, ⟨_, hd⟩ | hd⟩ := RecordDraft.ofCalls_cases calls
  · exact .openRecord (hd ▸ hb)
  · exact .record hparts (hd ▸ hb)

/-- A record with fields comes from calls that declare them. -/
theorem declaredBy_of_build (hb : (RecordDraft.ofCalls calls).build = .ok (record fields fallback)) :
    Fields.DeclaredBy (RecordDraft.declarations calls) fields := by
  obtain ⟨given, _, ⟨_, hd⟩ | hd⟩ := RecordDraft.ofCalls_cases calls
  · rw [hd] at hb
    cases (checked_eq_ok_iff.mp hb).1
  · rw [hd] at hb
    obtain ⟨rfl, _⟩ := Schema.record.inj (checked_eq_ok_iff.mp hb).1
    exact Fields.declaredBy_insertAll _

/-- Only declared names have defaults. -/
theorem mem_names_of_defaultEntries (hm : name ∈ Fields.names (defaultEntries fields)) :
    name ∈ Fields.names fields := by
  obtain ⟨entry, hentry, rfl⟩ := List.mem_map.mp hm
  obtain ⟨field, hfield, hdefault⟩ := List.mem_filterMap.mp hentry
  obtain ⟨value, _, rfl⟩ := Option.map_eq_some_iff.mp hdefault
  exact Fields.mem_names_of_mem hfield

/-- Among the defaults of fields with distinct names stands the default of each field, or nothing
where that is absent. -/
theorem find?_defaultEntries (hd : Fields.Distinct fields)
    (hf : Fields.find? name fields = some inner) :
    Fields.find? name (defaultEntries fields) = inner.default? := by
  induction fields with
  | nil => cases hf
  | cons head rest ih =>
    obtain ⟨first, field⟩ := head
    obtain ⟨hfresh, hrest⟩ := List.nodup_cons.mp hd
    have hstep : defaultEntries ((first, field) :: rest) =
        (field.default?.map fun value => (first, value)).toList ++ defaultEntries rest := by
      rw [defaultEntries, List.filterMap_cons]
      cases field.default? <;> rfl
    rw [hstep]
    by_cases hn : first = name
    · subst hn
      obtain rfl : field = inner := by simpa [Fields.find?] using hf
      cases hdefault : field.default? with
      | some value => simp [Fields.find?]
      | none =>
        -- The rest has no default under this name, since it does not declare the name.
        exact Fields.find?_eq_none_iff.mpr fun hm => hfresh (mem_names_of_defaultEntries hm)
    · rw [Fields.find?, if_neg hn] at hf
      cases field.default? with
      | some value => simpa [Fields.find?, hn] using ih hrest hf
      | none => exact ih hrest hf

/-- The object of the fields' defaults is accepted if every field accepts its own. -/
theorem accepts_defaultEntries (hd : Fields.Distinct fields)
    (ha : ∀ field ∈ fields, field.2.accepts field.2.default? = true) :
    (record fields fallback).accepts (some (.object (defaultEntries fields))) = true := by
  refine accepts_record_iff.mpr ⟨_, rfl, fun key => mem_names_of_defaultEntries, fun field hm => ?_⟩
  rw [find?_defaultEntries hd (Fields.find?_of_mem hd hm)]
  exact ha field hm

/-- Calls that declare built parts and give no default make a record. -/
theorem exists_build_ofCalls (hparts : ∀ declaration ∈ RecordDraft.declarations calls,
      declaration.2.Built) (hno : ∀ value, RecordDraft.Call.fallback value ∉ calls) :
    ∃ schema, (RecordDraft.ofCalls calls).build = .ok schema := by
  obtain ⟨given, hgiven, hcases⟩ := RecordDraft.ofCalls_cases calls
  obtain rfl : given = none := by
    cases given with
    | none => rfl
    | some value => exact absurd (hgiven value rfl) (hno value)
  obtain ⟨_, hd⟩ | hd := hcases
  · exact ⟨.openRecord (.object []), by rw [hd]; rfl⟩
  · rw [hd]
    refine ⟨_, checked_eq_ok_iff.mpr ⟨rfl, ?_⟩⟩
    refine accepts_defaultEntries (Fields.distinct_insertAll_nil _) fun field hm => ?_
    rcases Fields.mem_insertAll hm with hm | hm
    · cases hm
    · exact (hparts field hm).wellFormed.accepts_default

/-- Lists without a default of their own have the empty one. -/
theorem exists_buildList (item : Schema) : ∃ schema, buildList item none = .ok schema := by
  have ha : (Schema.list item (.array [])).accepts (some (.array [])) = true := by
    rw [accepts, failures]
    rfl
  exact ⟨_, checked_eq_ok_iff.mpr ⟨rfl, ha⟩⟩

/-- A union without a default of its own has that of its first member. -/
theorem exists_buildUnion (ha : first.accepts first.default? = true) (members : List Schema) :
    ∃ schema, buildUnion (first :: members) none = .ok schema := by
  have hunion : (Schema.union (first :: members) first.default?).accepts first.default? = true := by
    rw [accepts] at ha
    rw [accepts, failures, someAccepts, ha]
    rfl
  exact ⟨_, checked_eq_ok_iff.mpr ⟨rfl, hunion⟩⟩

/-- The parts of a schema are built, and those of a record are declared by the draft that made it. -/
def PartsBuilt : Schema → Prop
  | .record fields fallback => ∃ declarations given,
      (∀ declaration ∈ declarations, declaration.2.Built) ∧
        (RecordDraft.declareAll declarations { fallback := given }).build =
          .ok (.record fields fallback)
  | .list item _ => item.Built
  | .union members _ => ∀ member ∈ members, member.Built
  | _ => True

/-- A built schema has built parts. -/
theorem Built.parts (h : schema.Built) : schema.PartsBuilt := by
  cases h with
  | any hb => obtain ⟨rfl, _⟩ := checked_eq_ok_iff.mp hb; trivial
  | boolean hb => obtain ⟨rfl, _⟩ := checked_eq_ok_iff.mp hb; trivial
  | text hb =>
    obtain ⟨rule, fallback, hc⟩ := exists_checked_of_text hb
    obtain ⟨rfl, _⟩ := checked_eq_ok_iff.mp hc
    trivial
  | number hb =>
    obtain ⟨rule, fallback, hc⟩ := exists_checked_of_number hb
    obtain ⟨rfl, _⟩ := checked_eq_ok_iff.mp hc
    trivial
  | nullable hb =>
    obtain ⟨rfl, _⟩ := checked_eq_ok_iff.mp (checked_of_nullable hb)
    trivial
  | openRecord hb => obtain ⟨rfl, _⟩ := checked_eq_ok_iff.mp hb; trivial
  | @record declarations given _ hparts hb =>
    obtain ⟨rfl, _⟩ := checked_eq_ok_iff.mp hb
    exact ⟨declarations, given, hparts, hb⟩
  | list hpart hb => obtain ⟨rfl, _⟩ := checked_eq_ok_iff.mp hb; exact hpart
  | union hparts hb =>
    obtain ⟨fallback, hc⟩ := exists_checked_of_union hb
    obtain ⟨rfl, _⟩ := checked_eq_ok_iff.mp hc
    exact hparts

/-- Whatever occurs in a built schema is built. -/
theorem Built.within (h : schema.Built) (hw : Within inner schema) : inner.Built := by
  induction hw with
  | refl => exact h
  | field hm _ ih =>
    obtain ⟨declarations, given, hparts, hb⟩ := h.parts
    obtain ⟨rfl, _⟩ := Schema.record.inj (checked_eq_ok_iff.mp hb).1
    rcases Fields.mem_insertAll hm with hm | hm
    · cases hm
    · exact ih (hparts _ hm)
  | item _ ih => exact ih h.parts
  | member hm _ ih => exact ih (h.parts _ hm)

/-- The schemas that come out of drafts and out of examples. -/
inductive Obtained (schema : Schema) : Prop
  /-- From a draft with built parts. -/
  | built (h : schema.Built)
  /-- From calls on a draft of a record, with built parts. -/
  | called {calls : List RecordDraft.Call}
      (hparts : ∀ declaration ∈ RecordDraft.declarations calls, declaration.2.Built)
      (hb : (RecordDraft.ofCalls calls).build = .ok schema)
  /-- From an example, which may be absent. -/
  | inferred {example? : Option Value} (h : infer example? = .ok schema)

theorem Obtained.isBuilt (h : schema.Obtained) : schema.Built := by
  cases h with
  | built h => exact h
  | called hparts hb => exact built_of_calls hparts hb
  | inferred h => exact built_infer h

/-- What holds of a schema that drafts made, and of every schema that occurs in one. -/
structure Sound (schema : Schema) : Prop where
  /-- The default, or its absence, is accepted. -/
  accepts_default : schema.accepts schema.default? = true
  /-- The names of fields are distinct. -/
  distinct : ∀ fields fallback, schema = .record fields fallback → Fields.Distinct fields
  /-- A record with fields was made by calls that declare built parts. -/
  called : ∀ fields fallback, schema = .record fields fallback →
    ∃ calls, (∀ declaration ∈ RecordDraft.declarations calls, declaration.2.Built) ∧
      (RecordDraft.ofCalls calls).build = .ok schema
  /-- Whatever calls made it, its fields stand in the order of their first declarations, each as it
  was declared last. -/
  declaredBy : ∀ fields fallback calls, schema = .record fields fallback →
    (RecordDraft.ofCalls calls).build = .ok schema →
    Fields.DeclaredBy (RecordDraft.declarations calls) fields

theorem Built.sound (h : schema.Built) : schema.Sound where
  accepts_default := h.wellFormed.accepts_default
  distinct _ _ he := (he ▸ h.wellFormed : WellFormed _).distinct
  called fields fallback he := by
    subst he
    obtain ⟨declarations, given, hparts, hb⟩ := h.parts
    have hcalls : RecordDraft.ofCalls
        ((given.map RecordDraft.Call.fallback).toList ++ [.declareAll declarations]) =
          RecordDraft.declareAll declarations { fallback := given } := by
      cases given <;> rfl
    refine ⟨_, ?_, by rw [hcalls]; exact hb⟩
    cases given <;> simpa [RecordDraft.declarations, RecordDraft.Call.declarations] using hparts
  declaredBy _ _ _ he hb := declaredBy_of_build (he ▸ hb)

/-- Every schema that occurs, at any depth, in one that comes out of drafts or out of an example
accepts its own default, and declares its fields under distinct names, in the order of their first
declarations and each as it was declared last. Drafts of records, of lists and of unions with a
member that have built parts and no default of their own always build. -/
theorem sound_at_every_depth :
    (∀ schema inner : Schema, schema.Obtained → Within inner schema → inner.Sound) ∧
      (∀ calls, (∀ declaration ∈ RecordDraft.declarations calls, declaration.2.Built) →
        (∀ value, RecordDraft.Call.fallback value ∉ calls) →
        ∃ schema, (RecordDraft.ofCalls calls).build = .ok schema) ∧
      (∀ item : Schema, item.Built → ∃ schema, buildList item none = .ok schema) ∧
      (∀ first members, (∀ member ∈ first :: members, member.Built) →
        ∃ schema, buildUnion (first :: members) none = .ok schema) := by
  refine ⟨fun schema inner h hw => (h.isBuilt.within hw).sound,
    fun calls hparts hno => exists_build_ofCalls hparts hno,
    fun item _ => exists_buildList item, fun first members hparts => ?_⟩
  have hfirst := (hparts first List.mem_cons_self).wellFormed.accepts_default
  exact exists_buildUnion hfirst members

/-- A record of which one field is declared twice builds without a default of its own. The field
keeps its place and takes the schema declared last. -/
theorem sound_of_declared_twice :
    ∃ (calls : List RecordDraft.Call) (schema : Schema),
      Fields.names (RecordDraft.declarations calls) = ["on", "name", "on"] ∧
      (RecordDraft.ofCalls calls).build = .ok schema ∧ schema.Obtained ∧ schema.Sound ∧
      ∀ fields fallback, schema = .record fields fallback →
        Fields.names fields = ["on", "name"] ∧ Fields.find? "on" fields = some (.any .null) := by
  let calls : List RecordDraft.Call :=
    [.declare "on" (.boolean (.bool false)), .declare "name" (.any .null),
      .declare "on" (.any .null)]
  have hparts : ∀ declaration ∈ RecordDraft.declarations calls, declaration.2.Built := by
    have hswitch : (Schema.boolean (.bool false)).Built := @Built.boolean none _ rfl
    have hany : (Schema.any .null).Built := @Built.any none _ rfl
    simp [calls, RecordDraft.declarations, RecordDraft.Call.declarations, hswitch, hany]
  obtain ⟨hsound, hbuild, -, -⟩ := sound_at_every_depth
  obtain ⟨schema, hb⟩ := hbuild calls hparts (by simp [calls])
  have hschema := hsound schema schema (.called hparts hb) (.refl schema)
  refine ⟨calls, schema, rfl, hb, .called hparts hb, hschema, fun fields fallback he => ?_⟩
  have hdeclared := hschema.declaredBy fields fallback calls he hb
  exact ⟨hdeclared.names_eq.trans (by decide), (hdeclared.find?_eq "on").trans rfl⟩

end Schema

end ValidatedStore
