import ValidatedStore.Json.Reader
import ValidatedStore.Proofs.Value.WellFormed

/-!
# Values that are read have no repeated keys

The members of an object are written one after another into an empty object, so a repeated key
replaces its value. The induction is on the fuel, for values, sequences and members together; one
lemma for each of the three says what a single round of reading adds.
-/

namespace ValidatedStore

namespace Json

variable {fuel depth : Nat} {cs rest : List Char} {value : Value} {values : List Value}
  {entries : List (String × Value)}

/-- Reading values with this fuel gives well-formed ones. -/
def ReadsWellFormed (fuel : Nat) : Prop :=
  ∀ {depth cs value rest}, readValue fuel depth cs = some (value, rest) → value.WellFormed

/-- Reading sequences with this fuel gives well-formed items. -/
def ReadsItemsWellFormed (fuel : Nat) : Prop :=
  ∀ {depth cs values rest}, readItems fuel depth cs = some (values, rest) →
    ∀ value ∈ values, value.WellFormed

/-- Reading members with this fuel gives well-formed entries. -/
def ReadsMembersWellFormed (fuel : Nat) : Prop :=
  ∀ {depth cs entries rest}, readMembers fuel depth cs = some (entries, rest) →
    ∀ entry ∈ entries, entry.2.WellFormed

/-- Entries written into an empty object make a well-formed one. -/
theorem wellFormed_insertAll (h : ∀ entry ∈ entries, entry.2.WellFormed) :
    (Value.object (Fields.insertAll [] entries)).WellFormed := by
  refine Value.wellFormed_object.mpr ⟨Fields.distinct_insertAll_nil entries, fun entry hm => ?_⟩
  rcases Fields.mem_insertAll hm with hm | hm
  · cases hm
  · exact h entry hm

theorem wellFormed_readValue (hitems : ReadsItemsWellFormed fuel)
    (hmembers : ReadsMembersWellFormed fuel) : ReadsWellFormed (fuel + 1) := by
  intro depth cs value rest h
  rw [readValue] at h
  split at h
  next => obtain ⟨rfl, _⟩ := Prod.mk.inj (Option.some.inj h); exact trivial
  next => obtain ⟨rfl, _⟩ := Prod.mk.inj (Option.some.inj h); exact trivial
  next => obtain ⟨rfl, _⟩ := Prod.mk.inj (Option.some.inj h); exact trivial
  next =>
    simp only [Option.bind_eq_bind, Option.bind_eq_some_iff] at h
    obtain ⟨_, _, h⟩ := h
    obtain ⟨rfl, _⟩ := Prod.mk.inj (Option.some.inj h)
    exact trivial
  next =>
    split at h
    next => cases h
    next =>
      split at h
      next =>
        obtain ⟨rfl, _⟩ := Prod.mk.inj (Option.some.inj h)
        exact Value.wellFormed_array.mpr (by simp)
      next =>
        simp only [Option.bind_eq_bind, Option.bind_eq_some_iff] at h
        obtain ⟨⟨values, after⟩, hr, h⟩ := h
        obtain ⟨rfl, _⟩ := Prod.mk.inj (Option.some.inj h)
        exact Value.wellFormed_array.mpr (hitems hr)
  next =>
    split at h
    next => cases h
    next =>
      split at h
      next =>
        obtain ⟨rfl, _⟩ := Prod.mk.inj (Option.some.inj h)
        exact Value.wellFormed_object.mpr ⟨List.nodup_nil, by simp⟩
      next =>
        simp only [Option.bind_eq_bind, Option.bind_eq_some_iff] at h
        obtain ⟨⟨entries, after⟩, hr, h⟩ := h
        obtain ⟨rfl, _⟩ := Prod.mk.inj (Option.some.inj h)
        exact wellFormed_insertAll (hmembers hr)
  next =>
    simp only [Option.bind_eq_bind, Option.bind_eq_some_iff] at h
    obtain ⟨_, _, h⟩ := h
    obtain ⟨rfl, _⟩ := Prod.mk.inj (Option.some.inj h)
    exact trivial

theorem wellFormed_readItems (hvalue : ReadsWellFormed fuel)
    (hitems : ReadsItemsWellFormed fuel) : ReadsItemsWellFormed (fuel + 1) := by
  intro depth cs values rest h
  rw [readItems] at h
  simp only [Option.bind_eq_bind, Option.bind_eq_some_iff] at h
  obtain ⟨⟨first, after⟩, hfirst, h⟩ := h
  dsimp only at h
  split at h
  next =>
    obtain ⟨rfl, _⟩ := Prod.mk.inj (Option.some.inj h)
    intro value hm
    obtain rfl := List.mem_singleton.mp hm
    exact hvalue hfirst
  next =>
    simp only [Option.bind_eq_some_iff] at h
    obtain ⟨⟨others, after⟩, hothers, h⟩ := h
    obtain ⟨rfl, _⟩ := Prod.mk.inj (Option.some.inj h)
    intro value hm
    rcases List.mem_cons.mp hm with rfl | hm
    · exact hvalue hfirst
    · exact hitems hothers value hm
  next => cases h

theorem wellFormed_readMembers (hvalue : ReadsWellFormed fuel)
    (hmembers : ReadsMembersWellFormed fuel) : ReadsMembersWellFormed (fuel + 1) := by
  intro depth cs entries rest h
  rw [readMembers] at h
  split at h
  next =>
    simp only [Option.bind_eq_bind, Option.bind_eq_some_iff] at h
    obtain ⟨⟨key, after⟩, hkey, h⟩ := h
    dsimp only at h
    split at h
    next =>
      simp only [Option.bind_eq_some_iff] at h
      obtain ⟨⟨first, after⟩, hfirst, h⟩ := h
      dsimp only at h
      split at h
      next =>
        obtain ⟨rfl, _⟩ := Prod.mk.inj (Option.some.inj h)
        intro entry hm
        obtain rfl := List.mem_singleton.mp hm
        exact hvalue hfirst
      next =>
        simp only [Option.bind_eq_some_iff] at h
        obtain ⟨⟨others, after⟩, hothers, h⟩ := h
        obtain ⟨rfl, _⟩ := Prod.mk.inj (Option.some.inj h)
        intro entry hm
        rcases List.mem_cons.mp hm with rfl | hm
        · exact hvalue hfirst
        · exact hmembers hothers entry hm
      next => cases h
    next => cases h
  next => cases h

/-- Whatever is read, with any fuel, is well formed. -/
theorem wellFormed_read (fuel : Nat) :
    ReadsWellFormed fuel ∧ ReadsItemsWellFormed fuel ∧ ReadsMembersWellFormed fuel := by
  induction fuel with
  | zero =>
    refine ⟨fun h => ?_, fun h => ?_, fun h => ?_⟩
    · rw [readValue] at h; cases h
    · rw [readItems] at h; cases h
    · rw [readMembers] at h; cases h
  | succ fuel ih =>
    obtain ⟨hvalue, hitems, hmembers⟩ := ih
    exact ⟨wellFormed_readValue hitems hmembers, wellFormed_readItems hvalue hitems,
      wellFormed_readMembers hvalue hmembers⟩

/-- The value of a text is well formed. -/
theorem wellFormed_parse {text : String} (h : parse text = some value) : value.WellFormed := by
  simp only [parse, Option.bind_eq_bind, Option.bind_eq_some_iff] at h
  obtain ⟨⟨found, rest⟩, hr, h⟩ := h
  dsimp only at h
  split at h
  next =>
    obtain rfl := Option.some.inj h
    exact (wellFormed_read _).1 hr
  next => cases h

end Json

end ValidatedStore
