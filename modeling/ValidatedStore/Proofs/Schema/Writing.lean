import ValidatedStore.Proofs.Schema.Built
import ValidatedStore.Proofs.Value.Restoring

/-!
# Writing a part

A store checks only the part that it writes, against the schema declared at the path. That is
enough: where a part of an accepted value is overwritten, the whole fails at the places at which the
part fails the schema declared for it, and nowhere else. So it stays accepted exactly if the part is
acceptable. The induction is on the path, through records alone.
-/

namespace ValidatedStore

namespace Schema

variable {schema inner : Schema} {value new written : Value} {path : KeyPath}
  {fields : List (String × Schema)} {fallback : Value} {entries : List (String × Value)}
  {name : String}

/-- Where all other fields are accepted, the failures are those of one field. -/
theorem fieldFailures_of_others_accepted (hd : Fields.Distinct fields)
    (hf : Fields.find? name fields = some inner)
    (hothers : ∀ field ∈ fields, field.1 ≠ name →
      field.2.accepts (Fields.find? field.1 entries) = true) :
    fieldFailures fields entries =
      (inner.failures (Fields.find? name entries)).map (name :: ·) := by
  induction fields with
  | nil => cases hf
  | cons head rest ih =>
    obtain ⟨first, field⟩ := head
    obtain ⟨hfresh, hrest⟩ := List.nodup_cons.mp hd
    have htail : ∀ field ∈ rest, field.1 ≠ name →
        field.2.accepts (Fields.find? field.1 entries) = true :=
      fun other hm => hothers other (List.mem_cons_of_mem _ hm)
    rw [fieldFailures]
    by_cases hn : first = name
    · subst hn
      obtain rfl : field = inner := by simpa [Fields.find?] using hf
      have hnone : fieldFailures rest entries = [] := by
        refine fieldFailures_eq_nil_iff.mpr fun other hm => htail other hm fun he => ?_
        have hmem : other.1 ∈ Fields.names rest := Fields.mem_names_of_mem hm
        exact hfresh (he ▸ hmem)
      rw [hnone, List.append_nil]
    · have hhead := accepts_iff.mp (hothers (first, field) List.mem_cons_self hn)
      rw [Fields.find?, if_neg hn] at hf
      rw [hhead, List.map_nil, List.nil_append]
      exact ih hrest hf htail

/-- Writing a part into one field of an accepted record makes it fail where the part fails. -/
theorem failures_insert
    (ha : (record fields fallback).accepts (some (.object entries)) = true)
    (hd : Fields.Distinct fields) (hf : Fields.find? name fields = some inner) :
    (record fields fallback).failures (some (.object (Fields.insert name new entries))) =
      (inner.failures (some new)).map (name :: ·) := by
  obtain ⟨entries', he, hkeys, hfields⟩ := accepts_record_iff.mp ha
  obtain rfl : entries = entries' := by simpa using he
  have hdeclared : undeclaredKeys fields (Fields.insert name new entries) = [] := by
    refine undeclaredKeys_eq_nil_iff.mpr fun key hm => ?_
    rcases Fields.mem_names_insert.mp hm with rfl | hm
    · exact Fields.mem_names_iff.mpr (by rw [hf]; rfl)
    · exact hkeys key hm
  have hothers : ∀ field ∈ fields, field.1 ≠ name →
      field.2.accepts (Fields.find? field.1 (Fields.insert name new entries)) = true := by
    intro field hm hn
    rw [Fields.find?_insert_of_ne hn.symm]
    exact hfields field hm
  rw [failures_record_object, hdeclared, List.map_nil, List.nil_append,
    fieldFailures_of_others_accepted hd hf hothers, Fields.find?_insert_self]

/-- A declared part of an accepted value can be overwritten, and then the value fails where the part
fails the schema declared for it. -/
theorem exists_overwrite (hw : schema.WellFormed) (ha : schema.accepts (some value) = true)
    (hd : schema.declared path = .ok inner) (new : Value) :
    ∃ written, value.overwrite path new = .ok written ∧
      schema.failures (some written) = (inner.failures (some new)).map (path ++ ·) := by
  induction path generalizing schema value with
  | nil =>
    obtain rfl : schema = inner := by simpa [declared] using hd
    exact ⟨new, rfl, by simp⟩
  | cons key rest ih =>
    obtain ⟨fields, fallback, field, rfl, hf, hrest⟩ := declared_cons_eq_ok_iff.mp hd
    obtain ⟨entries, he, _, hfields⟩ := accepts_record_iff.mp ha
    obtain rfl : value = .object entries := by simpa using he
    have hm := Fields.mem_of_find? hf
    cases rest with
    | nil =>
      obtain rfl : field = inner := by simpa [declared] using hrest
      exact ⟨_, Value.restore_object_singleton (some new), failures_insert ha hw.distinct hf⟩
    | cons next rest =>
      -- A field with declared parts is a record, which does not accept absence.
      obtain ⟨_, _, _, rfl, _, _⟩ := declared_cons_eq_ok_iff.mp hrest
      have hfield := hfields _ hm
      obtain ⟨inside, hfound, _, _⟩ := accepts_record_iff.mp hfield
      dsimp only at hfound
      rw [hfound] at hfield
      obtain ⟨part, ho, hfailures⟩ := ih (hw.field hm) hfield hrest
      refine ⟨.object (Fields.insert key part entries), ?_, ?_⟩
      · have hc : (Value.object entries).child key = .ok (some (.object inside)) := by
          rw [Value.child, hfound]
        have hr := @Value.restore_cons _ _ key next rest hc (some new)
        rw [Value.restore, Value.restore, ho] at hr
        exact hr
      · rw [failures_insert ha hw.distinct hf, hfailures, List.map_map]
        rfl

/-- Overwriting a declared part with an acceptable one keeps the whole value accepted. -/
theorem accepts_overwrite (hw : schema.WellFormed) (ha : schema.accepts (some value) = true)
    (hd : schema.declared path = .ok inner) (hn : inner.accepts (some new) = true)
    (ho : value.overwrite path new = .ok written) : schema.accepts (some written) = true := by
  obtain ⟨written', ho', hfailures⟩ := exists_overwrite hw ha hd new
  obtain rfl := Except.ok.inj (ho.symm.trans ho')
  rw [accepts_iff, hfailures, accepts_iff.mp hn, List.map_nil]

/-- In a value that a built schema accepts, every declared part can be overwritten with any value.
The whole then fails exactly where the new part fails the schema declared for it, in the same order,
so that it is accepted if and only if the part is. -/
theorem whole_fails_as_part (hb : schema.Built) (ha : schema.accepts (some value) = true)
    (hd : schema.declared path = .ok inner) (new : Value) :
    ∃ written, value.overwrite path new = .ok written ∧
      schema.failures (some written) = (inner.failures (some new)).map (path ++ ·) ∧
      (schema.accepts (some written) = true ↔ inner.accepts (some new) = true) := by
  obtain ⟨written, ho, hfailures⟩ := exists_overwrite hb.wellFormed ha hd new
  refine ⟨written, ho, hfailures, ?_⟩
  rw [accepts_iff, accepts_iff, hfailures, List.map_eq_nil_iff]

/-- A record of a switch, which is off by default, and of a field that may only be missing. -/
def lampSchema : Schema :=
  .record [("on", .boolean (.bool false)), ("broken", .nullable false true)]
    (.object [("on", .bool false)])

/-- A record of one lamp. -/
def roomSchema : Schema :=
  .record [("lamp", lampSchema)] (.object [("lamp", .object [("on", .bool false)])])

theorem built_roomSchema : roomSchema.Built := by
  have hlamp : lampSchema.Built := by
    refine @Built.record [("on", .boolean (.bool false)), ("broken", .nullable false true)] none _
      (fun declaration hm => ?_) rfl
    rcases List.mem_pair.mp hm with rfl | rfl
    · exact @Built.boolean none _ rfl
    · exact @Built.nullable { null := false } _ rfl
  refine @Built.record [("lamp", lampSchema)] none _ (fun declaration hm => ?_) rfl
  obtain rfl := List.mem_singleton.mp hm
  exact hlamp

/-- A text for the switch of a room's lamp is a failure at the switch. -/
theorem room_fails_as_lamp :
    ∃ (value new written : Value) (inner : Schema),
      roomSchema.Built ∧ roomSchema.accepts (some value) = true ∧
      roomSchema.declared ["lamp", "on"] = .ok inner ∧
      value.overwrite ["lamp", "on"] new = .ok written ∧
      roomSchema.failures (some written) = [["lamp", "on"]] ∧
      roomSchema.failures (some written) =
        (inner.failures (some new)).map (["lamp", "on"] ++ ·) ∧
      (roomSchema.accepts (some written) = true ↔ inner.accepts (some new) = true) := by
  let value : Value := .object [("lamp", .object [("on", .bool true)])]
  have haccepted : roomSchema.accepts (some value) = true := by
    decide
  have hdeclared : roomSchema.declared ["lamp", "on"] = .ok (.boolean (.bool false)) := rfl
  obtain ⟨written, ho, hfailures, hiff⟩ :=
    whole_fails_as_part built_roomSchema haccepted hdeclared (.string "x")
  exact ⟨value, .string "x", written, _, built_roomSchema, haccepted, hdeclared, ho, hfailures,
    hfailures, hiff⟩

end Schema

end ValidatedStore
