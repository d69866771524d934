import ValidatedStore.Proofs.Fields
import ValidatedStore.Repair

/-!
# Values without repeated keys

Every way of changing a value at a path keeps its keys distinct: writing, removing, clearing,
restoring and repairing give well-formed values when what they start from and what they put in is
well formed. The edits share one induction over the path; a single container is the base case.
-/

namespace ValidatedStore

namespace Value

variable {value inner new : Value} {key : String} {path : KeyPath}

theorem wellFormedItems_iff {items : List Value} :
    WellFormedItems items ↔ ∀ item ∈ items, item.WellFormed := by
  induction items with
  | nil => simp [WellFormedItems]
  | cons item rest ih => simp [WellFormedItems, ih]

theorem wellFormedEntries_iff {entries : List (String × Value)} :
    WellFormedEntries entries ↔ ∀ entry ∈ entries, entry.2.WellFormed := by
  induction entries with
  | nil => simp [WellFormedEntries]
  | cons entry rest ih => simp [WellFormedEntries, ih]

theorem wellFormed_array {items : List Value} :
    (Value.array items).WellFormed ↔ ∀ item ∈ items, item.WellFormed := by
  rw [WellFormed, wellFormedItems_iff]

theorem wellFormed_object {entries : List (String × Value)} :
    (Value.object entries).WellFormed ↔
      Fields.Distinct entries ∧ ∀ entry ∈ entries, entry.2.WellFormed := by
  rw [WellFormed, wellFormedEntries_iff]

theorem wellFormed_null : Value.null.WellFormed := trivial

/-- Objects stay well formed when an entry is written. -/
theorem wellFormed_insert {entries : List (String × Value)}
    (h : (Value.object entries).WellFormed) (hn : new.WellFormed) :
    (Value.object (Fields.insert key new entries)).WellFormed := by
  rw [wellFormed_object] at h ⊢
  refine ⟨h.1.insert, fun entry hm => ?_⟩
  rcases Fields.mem_insert hm with rfl | hm
  · exact hn
  · exact h.2 entry hm

/-- Arrays stay well formed when an item is replaced. -/
theorem wellFormed_arraySet {items : List Value} {i : Nat}
    (h : (Value.array items).WellFormed) (hn : new.WellFormed) :
    (Value.array (items.set i new)).WellFormed := by
  rw [wellFormed_array] at h ⊢
  intro item hm
  rcases List.mem_or_eq_of_mem_set hm with hm | rfl
  · exact h item hm
  · exact hn

/-- What a key leads to in a well-formed container is well formed. -/
theorem WellFormed.child (h : value.WellFormed) (hc : value.child key = .ok (some inner)) :
    inner.WellFormed := by
  cases value with
  | object entries =>
    have hf : Fields.find? key entries = some inner := by simpa [Value.child] using hc
    exact (wellFormed_object.mp h).2 _ (Fields.mem_of_find? hf)
  | array items =>
    simp only [Value.child, Except.ok.injEq, Option.bind_eq_some_iff] at hc
    obtain ⟨i, _, hi⟩ := hc
    exact wellFormed_array.mp h inner (List.mem_of_getElem? hi)
  | null => cases hc
  | bool _ => cases hc
  | number _ => cases hc
  | string _ => cases hc

theorem WellFormed.putChild (h : value.WellFormed) (hi : inner.WellFormed) :
    (value.putChild key inner).WellFormed := by
  cases value with
  | object entries => exact wellFormed_insert h hi
  | array items =>
    unfold Value.putChild
    dsimp only
    split
    · exact wellFormed_arraySet h hi
    · exact h
  | null => exact h
  | bool _ => exact h
  | number _ => exact h
  | string _ => exact h

/-- What stands at a path of a well-formed value is well formed. -/
theorem WellFormed.find {found : Value} (h : value.WellFormed)
    (hf : value.find path = .ok (some found)) : found.WellFormed := by
  induction path generalizing value with
  | nil =>
    obtain rfl : value = found := by simpa [Value.find] using hf
    exact h
  | cons key rest ih =>
    rw [Value.find] at hf
    split at hf
    next => cases hf
    next => split at hf <;> cases hf
    next inner hc =>
      have hi : inner.find rest = .ok (some found) := by
        cases hr : inner.find rest with
        | error fault => rw [hr] at hf; cases hf
        | ok found' => rw [hr] at hf; exact hf
      exact ih (h.child hc) hi

/-- An edit keeps values well formed if its change of one container does. -/
theorem WellFormed.edit {α : Type} {change : Value → String → Except PathFault (Value × α)}
    (hchange : ∀ {container key changed result}, container.WellFormed →
      change container key = .ok (changed, result) → changed.WellFormed)
    {edited : Value} {result : α} (h : value.WellFormed)
    (he : Value.edit change value path = .ok (edited, result)) : edited.WellFormed := by
  induction path generalizing value edited with
  | nil => cases he
  | cons key rest ih =>
    cases rest with
    | nil => exact hchange h he
    | cons next rest =>
      rw [Value.edit] at he
      split at he
      next => cases he
      next => cases he
      next inner hc =>
        split at he
        next => cases he
        next inner' result' hi =>
          obtain ⟨rfl, rfl⟩ := Prod.mk.inj (Except.ok.inj he)
          exact h.putChild (ih (h.child hc) hi)

/-- Writing one entry of a container keeps it well formed. -/
theorem WellFormed.writeChild {changed : Value} (hn : new.WellFormed) (h : value.WellFormed)
    (hw : Value.writeChild new value key = .ok (changed, ())) : changed.WellFormed := by
  cases value with
  | object entries =>
    obtain rfl := (Prod.mk.inj (Except.ok.inj hw)).1
    exact wellFormed_insert h hn
  | array items =>
    unfold Value.writeChild at hw
    dsimp only at hw
    split at hw
    next => cases hw
    next i _ =>
      split at hw
      next =>
        obtain rfl := (Prod.mk.inj (Except.ok.inj hw)).1
        exact wellFormed_arraySet h hn
      next =>
        split at hw
        next =>
          obtain rfl := (Prod.mk.inj (Except.ok.inj hw)).1
          rw [wellFormed_array] at h ⊢
          intro item hm
          simp only [List.append_assoc, List.mem_append, List.mem_replicate,
            List.mem_singleton] at hm
          rcases hm with hm | ⟨_, rfl⟩ | rfl
          · exact h item hm
          · exact wellFormed_null
          · exact hn
        next => cases hw
  | null => cases hw
  | bool _ => cases hw
  | number _ => cases hw
  | string _ => cases hw

/-- Removing one entry of a container keeps it well formed. -/
theorem WellFormed.removeChild {changed : Value} {old : Option Value} (h : value.WellFormed)
    (hr : Value.removeChild value key = .ok (changed, old)) : changed.WellFormed := by
  cases value with
  | object entries =>
    obtain rfl := (Prod.mk.inj (Except.ok.inj hr)).1
    rw [wellFormed_object] at h ⊢
    exact ⟨h.1.erase, fun entry hm => h.2 entry (Fields.mem_erase hm)⟩
  | array items =>
    unfold Value.removeChild at hr
    dsimp only at hr
    split at hr
    · obtain rfl := (Prod.mk.inj (Except.ok.inj hr)).1
      exact h
    · obtain rfl := (Prod.mk.inj (Except.ok.inj hr)).1
      exact wellFormed_arraySet h wellFormed_null
  | null => cases hr
  | bool _ => cases hr
  | number _ => cases hr
  | string _ => cases hr

theorem WellFormed.set {changed : Value} (h : value.WellFormed) (hn : new.WellFormed)
    (hs : value.set path new = .ok changed) : changed.WellFormed := by
  unfold Value.set at hs
  cases he : Value.edit (Value.writeChild new) value path with
  | error fault => rw [he] at hs; cases hs
  | ok edited =>
    rw [he] at hs
    obtain rfl := Except.ok.inj hs
    exact h.edit (fun hc hw => hn.writeChild hc hw) he

theorem WellFormed.overwrite {changed : Value} (h : value.WellFormed) (hn : new.WellFormed)
    (hs : value.overwrite path new = .ok changed) : changed.WellFormed := by
  cases path with
  | nil => exact Except.ok.inj hs ▸ hn
  | cons key rest => exact h.set hn hs

theorem WellFormed.clear {changed : Value} (h : value.WellFormed)
    (hs : value.clear path = .ok changed) : changed.WellFormed := by
  cases path with
  | nil => exact Except.ok.inj hs ▸ wellFormed_null
  | cons key rest =>
    unfold Value.clear Value.delete at hs
    dsimp only at hs
    cases he : Value.edit Value.removeChild value (key :: rest) with
    | error fault => rw [he] at hs; cases hs
    | ok edited =>
      rw [he] at hs
      obtain rfl := Except.ok.inj hs
      exact h.edit (fun hc hr => hc.removeChild hr) he

theorem WellFormed.restore {changed : Value} {replacement : Option Value} (h : value.WellFormed)
    (hr : ∀ new, replacement = some new → new.WellFormed)
    (hs : value.restore path replacement = .ok changed) : changed.WellFormed := by
  cases replacement with
  | none => exact h.clear hs
  | some new => exact h.overwrite (hr new rfl) hs

/-- A repair from a template of well-formed defaults keeps values well formed. -/
theorem WellFormed.repair {template : Template} {paths : List KeyPath} {repaired : Value}
    (ht : ∀ path new, template.defaultAt path = some new → new.WellFormed) (h : value.WellFormed)
    (hr : value.repair template paths = .ok repaired) : repaired.WellFormed := by
  induction paths generalizing value with
  | nil => exact Except.ok.inj hr ▸ h
  | cons path rest ih =>
    rw [Value.repair] at hr
    split at hr
    next restored hs => exact ih (h.restore (ht path) hs) hr
    next => cases hr

end Value

end ValidatedStore
