import ValidatedStore.Proofs.Value.Locating
import ValidatedStore.Proofs.Value.WellFormed

/-!
# The shape of a value

A value has the shape of a sample if it is of the same kind all the way down. Truth values, numbers
and texts may differ. An array may have any number of items, each shaped like some item of the
sample, or like anything if the sample is empty. An object has the keys of the sample, in any order,
and under each of them something of the shape that the sample has there.
-/

namespace ValidatedStore

namespace Value

theorem sizeOf_lt_of_mem_items {item : Value} {items : List Value} (hm : item ∈ items) :
    sizeOf item < sizeOf (Value.array items) := by
  have hitem := List.sizeOf_lt_of_mem hm
  rw [Value.array.sizeOf_spec]
  omega

theorem sizeOf_lt_of_mem_entries {entry : String × Value} {entries : List (String × Value)}
    (hm : entry ∈ entries) : sizeOf entry.2 < sizeOf (Value.object entries) := by
  have hentry := List.sizeOf_lt_of_mem hm
  obtain ⟨key, inner⟩ := entry
  rw [Prod.mk.sizeOf_spec] at hentry
  rw [Value.object.sizeOf_spec]
  dsimp only
  omega

/-- A property holds of every value if it passes from the parts of arrays and objects to the
whole. -/
@[elab_as_elim]
theorem induction_on_parts {P : Value → Prop} (null : P .null) (bool : ∀ b, P (.bool b))
    (number : ∀ n, P (.number n)) (string : ∀ s, P (.string s))
    (array : ∀ items, (∀ item ∈ items, P item) → P (.array items))
    (object : ∀ entries, (∀ entry ∈ entries, P entry.2) → P (.object entries)) (value : Value) :
    P value := by
  induction hsize : sizeOf value using Nat.strongRecOn generalizing value with
  | ind size ih =>
    subst hsize
    cases value with
    | null => exact null
    | bool b => exact bool b
    | number n => exact number n
    | string s => exact string s
    | array items =>
      exact array items fun item hm => ih _ (sizeOf_lt_of_mem_items hm) item rfl
    | object entries =>
      exact object entries fun entry hm => ih _ (sizeOf_lt_of_mem_entries hm) entry.2 rfl

/-- A value has the shape of a sample. -/
def HasShapeOf (value : Value) : Value → Prop
  | .null => value = .null
  | .bool _ => ∃ b, value = .bool b
  | .number _ => ∃ n, value = .number n
  | .string _ => ∃ s, value = .string s
  | .array items =>
    ∃ elements, value = .array elements ∧
      (items = [] ∨ ∀ element ∈ elements, ∃ item, ∃ _ : item ∈ items, element.HasShapeOf item)
  | .object entries =>
    ∃ others, value = .object others ∧
      (∀ key, key ∈ Fields.names others ↔ key ∈ Fields.names entries) ∧
      ∀ entry, ∀ _ : entry ∈ entries, ∀ inner, Fields.find? entry.1 others = some inner →
        inner.HasShapeOf entry.2
termination_by sample => sizeOf sample
decreasing_by
  · exact sizeOf_lt_of_mem_items ‹_›
  · exact sizeOf_lt_of_mem_entries ‹_›

variable {value : Value} {items : List Value} {entries : List (String × Value)} {key : String}
  {rest path : KeyPath}

/-- Each element of an array is like some item of the sample, or the sample is empty. -/
theorem hasShapeOf_array :
    value.HasShapeOf (.array items) ↔ ∃ elements, value = .array elements ∧
      (items = [] ∨ ∀ element ∈ elements, ∃ item ∈ items, element.HasShapeOf item) := by
  rw [HasShapeOf]
  simp only [exists_prop]

/-- An object has the keys of the sample, and under each of them something of the shape there. -/
theorem hasShapeOf_object :
    value.HasShapeOf (.object entries) ↔ ∃ others, value = .object others ∧
      (∀ key, key ∈ Fields.names others ↔ key ∈ Fields.names entries) ∧
      ∀ entry ∈ entries, ∀ inner, Fields.find? entry.1 others = some inner →
        inner.HasShapeOf entry.2 := by
  rw [HasShapeOf]

/-- Every value has its own shape. -/
theorem WellFormed.hasShapeOf_self (h : value.WellFormed) : value.HasShapeOf value := by
  induction value using induction_on_parts with
  | null => rw [HasShapeOf]
  | bool b => rw [HasShapeOf]; exact ⟨b, rfl⟩
  | number n => rw [HasShapeOf]; exact ⟨n, rfl⟩
  | string s => rw [HasShapeOf]; exact ⟨s, rfl⟩
  | array items ih =>
    have hitems := wellFormed_array.mp h
    exact hasShapeOf_array.mpr
      ⟨items, rfl, .inr fun item hm => ⟨item, hm, ih item hm (hitems item hm)⟩⟩
  | object entries ih =>
    obtain ⟨hd, hparts⟩ := wellFormed_object.mp h
    refine hasShapeOf_object.mpr ⟨entries, rfl, fun _ => Iff.rfl, fun entry hm inner hf => ?_⟩
    obtain rfl : entry.2 = inner := Option.some.inj ((Fields.find?_of_mem hd hm).symm.trans hf)
    exact ih entry hm (hparts entry hm)

/-- On the whole way along a path stand objects, each with the key that comes next. -/
def HasFieldsAlong (value : Value) (path : KeyPath) : Prop :=
  ∀ parent key, parent ++ [key] <+: path →
    ∃ entries, value.find parent = .ok (some (.object entries)) ∧ key ∈ Fields.names entries

theorem hasFieldsAlong_nil : value.HasFieldsAlong [] := by
  intro parent key hp
  have hnone := List.prefix_nil.mp hp
  simp at hnone

/-- The way along a path begins at an object that has the first key, and goes on below it. -/
theorem hasFieldsAlong_cons :
    value.HasFieldsAlong (key :: rest) ↔ ∃ entries inner, value = .object entries ∧
      Fields.find? key entries = some inner ∧ inner.HasFieldsAlong rest := by
  constructor
  · intro h
    obtain ⟨entries, hroot, hkey⟩ := h [] key (List.prefix_append [key] rest)
    obtain rfl : value = .object entries := by simpa [find] using hroot
    obtain ⟨inner, hinner⟩ := Option.isSome_iff_exists.mp (Fields.mem_names_iff.mp hkey)
    refine ⟨entries, inner, rfl, hinner, fun parent next hp => ?_⟩
    have hbelow : (key :: parent) ++ [next] <+: key :: rest :=
      List.cons_prefix_cons.mpr ⟨rfl, hp⟩
    obtain ⟨others, hothers, hnext⟩ := h (key :: parent) next hbelow
    obtain ⟨part, hc, hpart⟩ := exists_child_of_find hothers
    obtain rfl : inner = part := by simpa [child, hinner] using hc
    exact ⟨others, hpart, hnext⟩
  · rintro ⟨entries, inner, rfl, hinner, h⟩ parent next hp
    cases parent with
    | nil =>
      obtain ⟨rfl, -⟩ := List.cons_prefix_cons.mp hp
      exact ⟨entries, rfl, Fields.mem_names_iff.mpr (by rw [hinner]; rfl)⟩
    | cons first parent =>
      obtain ⟨rfl, hrest⟩ := List.cons_prefix_cons.mp hp
      obtain ⟨others, hothers, hnext⟩ := h parent next hrest
      have hc : (Value.object entries).child first = .ok (some inner) := by rw [child, hinner]
      exact ⟨others, by rw [find_cons hc, hothers]; rfl, hnext⟩

/-- Along fields something is found. -/
theorem HasFieldsAlong.exists_find (h : value.HasFieldsAlong path) :
    ∃ part, value.find path = .ok (some part) := by
  induction path generalizing value with
  | nil => exact ⟨value, rfl⟩
  | cons key rest ih =>
    obtain ⟨entries, inner, rfl, hinner, hrest⟩ := hasFieldsAlong_cons.mp h
    obtain ⟨part, hpart⟩ := ih hrest
    have hc : (Value.object entries).child key = .ok (some inner) := by rw [child, hinner]
    exact ⟨part, by rw [find_cons hc, hpart]; rfl⟩

end Value

end ValidatedStore
