import ValidatedStore.Proofs.Json.WellFormed
import ValidatedStore.Proofs.Schema.Built
import ValidatedStore.Proofs.Store.Usage

/-!
# The value in memory has no repeated keys

What is read has no repeated keys, and no change adds any. So a store whose default and schema come
without them, and whose updates put in none, holds a well-formed value at all times, repairs and
whatever others do to its medium included.
-/

namespace ValidatedStore

/-- What a schema declares occurs in it. -/
theorem Schema.within_of_declared {schema inner : Schema} {path : KeyPath}
    (h : schema.declared path = .ok inner) : Within inner schema := by
  induction path generalizing schema with
  | nil =>
    obtain rfl : schema = inner := by simpa [Schema.declared] using h
    exact .refl schema
  | cons key rest ih =>
    obtain ⟨fields, fallback, field, rfl, hf, hrest⟩ := declared_cons_eq_ok_iff.mp h
    exact .field (Fields.mem_of_find? hf) (ih hrest)

/-- No value that a draft brings along has repeated keys. -/
structure StoreDraft.WellFormed (draft : StoreDraft) : Prop where
  /-- The default has none. -/
  default : ∀ {value}, draft.default = some value → value.WellFormed
  /-- The defaults in the schema have none, at any depth. -/
  schema : ∀ {schema inner value}, draft.schema = some schema → Schema.Within inner schema →
    inner.default? = some value → value.WellFormed

/-- An update puts no repeated keys into parts without them. -/
def Operation.WellFormed : Operation → Prop
  | .update _ patch => ∀ part?, (∀ part, part? = some part → part.WellFormed) →
      (patch part?).WellFormed
  | _ => True

/-- An operation that puts a well-formed part in a place is well formed. -/
theorem Operation.wellFormed_set {part : Value} (selector : Selector) (h : part.WellFormed) :
    (Operation.set selector part).WellFormed :=
  fun _ _ => h

namespace Store

/-- No value that a store may take from its default or its template has repeated keys. -/
structure WellFormed (store : Store) : Prop where
  /-- The default has none. -/
  default : ∀ {value}, store.default = some value → value.WellFormed
  /-- The defaults of places have none. -/
  template : ∀ {template path value}, store.template? = some template →
    template.defaultAt path = some value → value.WellFormed

variable {μ : Type} [Medium μ] {store : Store} {draft : StoreDraft} {operation : Operation}

/-- The store of a well-formed draft is well formed. -/
theorem wellFormed_of_prepare (h : draft.prepare = .ok store) (hw : draft.WellFormed) :
    store.WellFormed := by
  obtain ⟨_, he⟩ := prepare_eq_ok h
  have hdefault : ∀ {value}, store.default = some value → value.WellFormed := by
    intro value hd
    rw [he] at hd
    rcases Option.or_eq_some_iff.mp hd with hd | ⟨_, hd⟩
    · exact hw.default hd
    · obtain ⟨schema, hs, hd⟩ := Option.bind_eq_some_iff.mp hd
      exact hw.schema hs (.refl schema) hd
  refine ⟨hdefault, fun {template path value} ht hv => ?_⟩
  unfold template? at ht
  split at ht
  next schema hs =>
    obtain rfl := Option.some.inj ht
    have hdraft : draft.schema = some schema := by
      rw [he] at hs
      exact hs
    unfold Template.defaultAt at hv
    dsimp only at hv
    split at hv
    next inner hd => exact hw.schema hdraft (Schema.within_of_declared hd) hv
    next => cases hv
  next sample _ hs =>
    obtain rfl := Option.some.inj ht
    unfold Template.defaultAt at hv
    dsimp only at hv
    split at hv
    next found hf =>
      rw [hv] at hf
      exact (hdefault hs).find hf
    next => cases hv
  next => cases ht

namespace WellFormed

/-- The default, or null in its place, is well formed. -/
theorem initial (hw : store.WellFormed) : (store.default.getD .null).WellFormed := by
  cases hd : store.default with
  | none => exact Value.wellFormed_null
  | some value => exact hw.default hd

/-- Every change that a well-formed operation may commit keeps the value well formed. -/
theorem changed (hw : store.WellFormed) (ho : operation.WellFormed) {old new : Value}
    (hold : old.WellFormed) (h : store.Changes operation old new) : new.WellFormed := by
  cases h with
  | @update selector patch _ _ h =>
    obtain ⟨_, current, _, hf, _, hoverwrite⟩ := patched_eq_ok h
    have hpart : (patch current).WellFormed := by
      refine ho current fun part hp => ?_
      rw [hp] at hf
      exact hold.find hf
    exact hold.overwrite hpart hoverwrite
  | reset hr hv =>
    refine hold.restore (fun replacement hd => ?_) hr
    obtain ⟨template, ht, hd⟩ := Option.bind_eq_some_iff.mp hd
    exact hw.template ht hd

/-- The value of a text is well formed, and so is what stands for a text that is no JSON. -/
theorem examined {text : String} {value : Value} {paths : List KeyPath}
    (h : store.examine text = (value, paths)) : value.WellFormed := by
  unfold examine at h
  split at h
  next hp => exact (Prod.mk.inj h).1 ▸ Json.wellFormed_parse hp
  next => exact (Prod.mk.inj h).1 ▸ Value.wellFormed_null

/-- Every value that a load may commit is well formed. -/
theorem offered (hw : store.WellFormed) {source : Option String} {value : Value}
    (h : store.Offers source value) : value.WellFormed := by
  cases h with
  | default hd => exact hw.default hd
  | sound he => exact examined he
  | repaired he ht hr =>
    have htemplate := template?_of_repairTemplate? ht
    exact (examined he).repair (fun _ _ hd => hw.template htemplate hd) hr

/-- Every move of a well-formed operation keeps the value well formed. -/
theorem moved (hw : store.WellFormed) {origin : μ} {before after : Session μ}
    (ho : operation.WellFormed) (h : store.Move operation origin before after)
    (hb : before.state.value.WellFormed) : after.state.value.WellFormed := by
  cases h with
  | note event => exact hb
  | pending pending => exact hb
  | change h => exact hw.changed ho hb h
  | load ht hoffers => exact hw.offered hoffers
  | save h =>
    rw [write_value]
    exact hb

end WellFormed

/-- A store that is opened from a well-formed draft and used by well-formed operations holds a
well-formed value, whatever others do to its medium. -/
theorem wellFormed_of_openOn {shifts : μ → μ → Prop} {medium : μ} {opened session : Session μ}
    (hdraft : draft.WellFormed) (hopen : draft.openOn medium = (.ok store, opened))
    (hrun : store.Evolves Operation.WellFormed shifts opened session) :
    session.state.value.WellFormed := by
  obtain ⟨hp, hopened⟩ : draft.prepare = .ok store ∧
      store.Evolves Operation.WellFormed shifts (store.start medium) opened :=
    evolves_of_openOn hopen trivial
  have hw : store.WellFormed := wellFormed_of_prepare hp hdraft
  exact hrun.preserved (P := fun state => state.value.WellFormed) hw.moved
    (hopened.preserved (P := fun state => state.value.WellFormed) hw.moved hw.initial)

end Store

end ValidatedStore
