import ValidatedStore.Medium.Memory
import ValidatedStore.Proofs.Json.WellFormed
import ValidatedStore.Proofs.Schema.Templates
import ValidatedStore.Proofs.Schema.Writing
import ValidatedStore.Proofs.Store.Usage

/-!
# The value in memory stays valid

Opening checks a store once: its default is accepted, its schema accepts its own default, and its
template fits the validator. From there every move that commits a value commits an accepted one, a
part because it is checked against the schema declared at its path, a reset because the whole is
checked, and a repair because its template fits. The exception is the root: what a schema has for
the whole value is null when its default is absent, and then it is on opening alone that null is
never committed.
-/

namespace ValidatedStore

namespace Store

variable {μ : Type} [Medium μ]

/-- What opening a store guarantees about the schema that it checks its values against. -/
structure Guarded (store : Store) (schema : Schema) : Prop where
  /-- The schema is the store's validator. -/
  validator : store.validator = some schema
  /-- It is well formed. -/
  wellFormed : schema.WellFormed
  /-- It accepts the store's default. -/
  accepts_default : ∀ {value}, store.default = some value → schema.accepts (some value) = true
  /-- The store's template fits it. -/
  fits : ∀ {template}, store.template? = some template → schema.Fits template.defaultAt

/-- A value that fails as a whole is replaced with an accepted one. -/
def ReplacesRoot (store : Store) (schema : Schema) : Prop :=
  ∀ template, store.template? = some template →
    schema.accepts (some ((template.defaultAt KeyPath.root).getD .null)) = true

variable {store : Store} {schema : Schema} {draft : StoreDraft} {operation : Operation}

/-- A text that fails as a whole fails nowhere else. -/
theorem paths_of_root_mem {text : String} {value : Value} {paths : List KeyPath}
    (h : store.examine text = (value, paths)) (hroot : KeyPath.root ∈ paths) :
    paths = [KeyPath.root] := by
  unfold examine at h
  split at h
  next =>
    obtain ⟨_, rfl⟩ := Prod.mk.inj h
    unfold failures at hroot ⊢
    split at hroot
    next => cases hroot
    next => exact Schema.failures_eq_of_root_mem hroot
  next => exact (Prod.mk.inj h).2.symm

/-- A draft with a built schema has it as the validator, and the default is accepted. -/
theorem validator_of_schema {validator : Option Schema} (h : draft.validator = .ok validator)
    (hs : draft.schema = some schema) (hb : schema.Built) :
    validator = some schema ∧
      ∀ value, draft.effectiveDefault = some value → schema.accepts (some value) = true := by
  unfold StoreDraft.validator at h
  unfold StoreDraft.effectiveDefault
  cases hd : draft.default with
  | some value =>
    rw [hs, hd] at h
    dsimp only at h
    split at h
    next hfail =>
      refine ⟨(Except.ok.inj h).symm, fun other he => ?_⟩
      obtain rfl : value = other := by simpa using he
      exact Schema.accepts_iff.mpr hfail
    next => cases h
  | none =>
    rw [hs, hd] at h
    dsimp only at h
    split at h
    next own hown =>
      refine ⟨(Except.ok.inj h).symm, fun other he => ?_⟩
      have hother : schema.default? = some other := by simpa [hs] using he
      exact hother ▸ hb.wellFormed.accepts_default
    next => cases h

/-- A draft with a default alone has the shape of the default as the validator. -/
theorem validator_of_default {validator : Option Schema} {value : Value}
    (h : draft.validator = .ok validator) (hs : draft.schema = none)
    (hd : draft.default = some value) :
    ∃ shape, validator = some shape ∧ shape.Built ∧ shape.accepts (some value) = true := by
  unfold StoreDraft.validator at h
  rw [hs, hd] at h
  dsimp only at h
  split at h
  next shape hi =>
    have hb : shape.Built := Schema.built_infer hi
    have hown := hb.wellFormed.accepts_default
    rw [Schema.default_ofExample hi] at hown
    exact ⟨shape, (Except.ok.inj h).symm, hb, hown⟩
  next => cases h

/-- A store that is prepared with a built schema is guarded by it, and its template is the
schema. -/
theorem guarded_of_schema (h : draft.prepare = .ok store) (hs : draft.schema = some schema)
    (hb : schema.Built) :
    store.Guarded schema ∧ store.template? = some (.schema schema) := by
  obtain ⟨hv, he⟩ := prepare_eq_ok h
  obtain ⟨hvalidator, hdefault⟩ := validator_of_schema hv hs hb
  have htemplate : store.template? = some (.schema schema) := by rw [he, template?, hs]
  refine ⟨⟨hvalidator, hb.wellFormed, fun {value} hd => ?_, fun {template} ht => ?_⟩, htemplate⟩
  · rw [he] at hd
    exact hdefault value hd
  · obtain rfl := Option.some.inj (htemplate.symm.trans ht)
    exact Template.fits_schema hb.wellFormed

/-- A store that is prepared with a default alone is guarded by the shape of the default, which is
its template. -/
theorem guarded_of_default {value : Value} (h : draft.prepare = .ok store)
    (hs : draft.schema = none) (hd : draft.default = some value) :
    ∃ shape, store.Guarded shape ∧ store.ReplacesRoot shape ∧ store.default = some value := by
  obtain ⟨hv, he⟩ := prepare_eq_ok h
  obtain ⟨shape, hvalidator, hb, ha⟩ := validator_of_default hv hs hd
  have hdefault : store.default = some value := by
    rw [he]
    simp [StoreDraft.effectiveDefault, hd]
  have htemplate : store.template? = some (.sample value) := by
    rw [template?, hdefault, he, hs]
  refine ⟨shape, ⟨hvalidator, hb.wellFormed, fun {other} ho => ?_, fun {template} ht => ?_⟩,
    fun template ht => ?_, hdefault⟩
  · obtain rfl := Option.some.inj (hdefault.symm.trans ho)
    exact ha
  · obtain rfl := Option.some.inj (htemplate.symm.trans ht)
    exact Template.fits_sample ha
  · obtain rfl := Option.some.inj (htemplate.symm.trans ht)
    exact ha

namespace Guarded

theorem failures_eq (hg : store.Guarded schema) (value : Value) :
    store.failures value = schema.failures (some value) := by
  rw [failures, hg.validator]

theorem failures_eq_nil_iff (hg : store.Guarded schema) {value : Value} :
    store.failures value = [] ↔ schema.accepts (some value) = true := by
  rw [hg.failures_eq, Schema.accepts_iff]

/-- A patched part is acceptable where it stands, so the whole value stays accepted. -/
theorem accepts_patched (hg : store.Guarded schema) {path : KeyPath}
    {patch : Option Value → Value} {old new : Value}
    (ha : schema.accepts (some old) = true) (h : store.patched path patch old = .ok new) :
    schema.accepts (some new) = true := by
  obtain ⟨failures, current, hp, _, hv, ho⟩ := patched_eq_ok h
  unfold partFailures? at hp
  rw [hg.validator] at hp
  dsimp only at hp
  split at hp
  next => cases hp
  next inner hd =>
    obtain rfl := Option.some.inj hp
    have hn : inner.accepts (some (patch current)) = true :=
      Schema.accepts_iff.mpr (List.map_eq_nil_iff.mp hv)
    exact Schema.accepts_overwrite hg.wellFormed ha hd hn ho

/-- Every change that an operation may commit keeps the value accepted. -/
theorem accepts_changed (hg : store.Guarded schema) {old new : Value}
    (ha : schema.accepts (some old) = true) (h : store.Changes operation old new) :
    schema.accepts (some new) = true := by
  cases h with
  | update h => exact hg.accepts_patched ha h
  | reset hr hv => exact hg.failures_eq_nil_iff.mp hv

/-- The value of a text without failures is accepted. -/
theorem accepts_examined (hg : store.Guarded schema) {text : String} {value : Value}
    (h : store.examine text = (value, [])) : schema.accepts (some value) = true := by
  unfold examine at h
  split at h
  next =>
    obtain ⟨rfl, hfail⟩ := Prod.mk.inj h
    exact hg.failures_eq_nil_iff.mp hfail
  next => cases (Prod.mk.inj h).2

/-- Every text with failures is repaired, and the result is accepted exactly if the text does not
fail as a whole, or what replaces a whole value is accepted. -/
theorem exists_repaired (hg : store.Guarded schema) {text : String} {value : Value}
    {paths : List KeyPath} {template : Template} (he : store.examine text = (value, paths))
    (ht : store.template? = some template) :
    ∃ repaired, value.repair template paths = .ok repaired ∧
      (schema.accepts (some repaired) = true ↔ (KeyPath.root ∈ paths →
        schema.accepts (some ((template.defaultAt KeyPath.root).getD .null)) = true)) := by
  by_cases hroot : KeyPath.root ∈ paths
  · obtain rfl := paths_of_root_mem he hroot
    exact ⟨_, Value.repair_root, fun h _ => h, fun h => h hroot⟩
  · have hparsed : Json.parse text = some value ∧ paths = schema.failures (some value) := by
      unfold examine at he
      split at he
      next hp =>
        obtain ⟨rfl, rfl⟩ := Prod.mk.inj he
        exact ⟨hp, hg.failures_eq _⟩
      next =>
        obtain ⟨_, rfl⟩ := Prod.mk.inj he
        exact absurd (List.mem_singleton_self _) hroot
    obtain ⟨hp, rfl⟩ := hparsed
    obtain ⟨repaired, hr, ha, _⟩ := Value.exists_repair hg.wellFormed (hg.fits ht)
      (fun h => absurd h hroot) (Json.wellFormed_parse hp)
    exact ⟨repaired, hr, fun _ h => absurd h hroot, fun _ => ha⟩

/-- A repaired value is accepted exactly if the source does not fail as a whole, or what replaces a
whole value is accepted. -/
theorem accepts_repaired_iff (hg : store.Guarded schema) {text : String} {value repaired : Value}
    {paths : List KeyPath} {template : Template} (he : store.examine text = (value, paths))
    (ht : store.template? = some template) (hr : value.repair template paths = .ok repaired) :
    schema.accepts (some repaired) = true ↔ (KeyPath.root ∈ paths →
      schema.accepts (some ((template.defaultAt KeyPath.root).getD .null)) = true) := by
  obtain ⟨sound, hs, hiff⟩ := hg.exists_repaired he ht
  obtain rfl : sound = repaired := Except.ok.inj (hs.symm.trans hr)
  exact hiff

/-- Every value that a load may commit is accepted, if whole values are replaced with accepted
ones. -/
theorem accepts_offered (hg : store.Guarded schema) (hroot : store.ReplacesRoot schema)
    {source : Option String} {value : Value} (h : store.Offers source value) :
    schema.accepts (some value) = true := by
  cases h with
  | default hd => exact hg.accepts_default hd
  | sound he => exact hg.accepts_examined he
  | repaired he ht hr =>
    have htemplate := template?_of_repairTemplate? ht
    exact (hg.accepts_repaired_iff he htemplate hr).mpr fun _ => hroot _ htemplate

/-- Every move keeps the value accepted. -/
theorem accepts_moved (hg : store.Guarded schema) (hroot : store.ReplacesRoot schema) {origin : μ}
    {before after : Session μ} (h : store.Move operation origin before after)
    (ha : schema.accepts (some before.state.value) = true) :
    schema.accepts (some after.state.value) = true := by
  cases h with
  | note event => exact ha
  | pending pending => exact ha
  | change h => exact hg.accepts_changed ha h
  | load ht ho => exact hg.accepts_offered hroot ho
  | save h =>
    rw [write_value]
    exact ha

/-- A store that is opened and then used in any way has an accepted value, if whole values are
replaced with accepted ones and the store has a default. -/
theorem accepts_evolved (hg : store.Guarded schema) (hroot : store.ReplacesRoot schema)
    {value : Value} (hd : store.default = some value) {may : Operation → Prop}
    {shifts : μ → μ → Prop} {medium : μ} {opened session : Session μ}
    (hopened : store.Evolves may shifts (store.start medium) opened)
    (hrun : store.Evolves may shifts opened session) :
    schema.accepts (some session.state.value) = true := by
  have hstart : schema.accepts (some (store.start medium).state.value) = true := by
    rw [start, State.initial, hd]
    exact hg.accepts_default hd
  have hmove : ∀ {operation : Operation} {origin : μ} {before after : Session μ}, may operation →
      store.Move operation origin before after →
      schema.accepts (some before.state.value) = true →
      schema.accepts (some after.state.value) = true :=
    fun _ h => hg.accepts_moved hroot h
  exact hrun.preserved (P := fun state => schema.accepts (some state.value) = true) hmove
    (hopened.preserved (P := fun state => schema.accepts (some state.value) = true) hmove hstart)

end Guarded

/-- A draft that opens with a built schema that has a default, or with a default alone, gives a
store that is guarded and replaces whole values with accepted ones. -/
theorem exists_guarded (h : draft.prepare = .ok store)
    (hschema : ∀ schema, draft.schema = some schema →
      schema.Built ∧ schema.default?.isSome = true)
    (hsome : draft.schema ≠ none ∨ draft.default ≠ none) :
    ∃ schema value, store.Guarded schema ∧ store.ReplacesRoot schema ∧
      store.default = some value := by
  cases hs : draft.schema with
  | some schema =>
    obtain ⟨hb, hown⟩ := hschema schema hs
    obtain ⟨hg, htemplate⟩ := guarded_of_schema h hs hb
    obtain ⟨own, hown⟩ := Option.isSome_iff_exists.mp hown
    have hdefault : store.default = some (draft.default.getD own) := by
      rw [(prepare_eq_ok h).2]
      cases hd : draft.default <;> simp [StoreDraft.effectiveDefault, hd, hs, hown]
    refine ⟨schema, _, hg, fun template ht => ?_, hdefault⟩
    obtain rfl := Option.some.inj (htemplate.symm.trans ht)
    have hroot : (Template.schema schema).defaultAt KeyPath.root = schema.default? := rfl
    have ha := hb.wellFormed.accepts_default
    rw [hown] at ha
    rw [hroot, hown]
    exact ha
  | none =>
    have hne := hsome.resolve_left fun hno => hno hs
    obtain ⟨value, hd⟩ := Option.ne_none_iff_exists'.mp hne
    obtain ⟨shape, hg, hroot, hdefault⟩ := guarded_of_default h hs hd
    exact ⟨shape, value, hg, hroot, hdefault⟩

/-- A store that is opened with a built schema that has a default, or without a schema, never holds
a value with failures. -/
theorem failures_of_openOn {may : Operation → Prop} {shifts : μ → μ → Prop} {medium : μ}
    {opened session : Session μ} (hload : may .load)
    (hschema : ∀ schema, draft.schema = some schema →
      schema.Built ∧ schema.default?.isSome = true)
    (hopen : draft.openOn medium = (.ok store, opened))
    (hrun : store.Evolves may shifts opened session) : store.failures session.state.value = [] := by
  obtain ⟨hp, hopened⟩ : draft.prepare = .ok store ∧
      store.Evolves may shifts (store.start medium) opened := evolves_of_openOn hopen hload
  by_cases hsome : draft.schema ≠ none ∨ draft.default ≠ none
  · obtain ⟨schema, value, hg, hroot, hd⟩ := exists_guarded hp hschema hsome
    exact hg.failures_eq_nil_iff.mpr (hg.accepts_evolved hroot hd hopened hrun)
  · obtain ⟨hs, hd⟩ : draft.schema = none ∧ draft.default = none := by
      simpa only [ne_eq, not_or, not_not] using hsome
    have hv := (prepare_eq_ok hp).1
    unfold StoreDraft.validator at hv
    rw [hs, hd] at hv
    rw [failures, ← Except.ok.inj hv]

/-- A store that is opened with a built schema that has a default, or with a default alone, holds a
value that its validator accepts, from its opening on and whatever is done with it and its
medium. -/
theorem accepts_of_openOn {medium : μ} {opened session : Session μ}
    (hschema : ∀ schema, draft.schema = some schema →
      schema.Built ∧ schema.default?.isSome = true)
    (hsome : draft.schema ≠ none ∨ draft.default ≠ none)
    (hopen : draft.openOn medium = (.ok store, opened))
    (hrun : store.Evolves (fun _ => True) (fun _ _ => True) opened session) :
    ∃ schema, store.validator = some schema ∧
      schema.accepts (some session.state.value) = true := by
  obtain ⟨hp, hopened⟩ : draft.prepare = .ok store ∧
      store.Evolves (fun _ => True) (fun _ _ => True) (store.start medium) opened :=
    evolves_of_openOn hopen trivial
  obtain ⟨schema, value, hg, hroot, hd⟩ := exists_guarded hp hschema hsome
  exact ⟨schema, hg.validator, hg.accepts_evolved hroot hd hopened hrun⟩

/-- A record of one switch, which is off by default. -/
def switchSchema : Schema :=
  .record [("on", .boolean (.bool false))] (.object [("on", .bool false)])

theorem built_switchSchema : switchSchema.Built := by
  have hpart : (Schema.boolean (.bool false)).Built := @Schema.Built.boolean none _ rfl
  have hparts : ∀ declaration ∈ [("on", Schema.boolean (.bool false))],
      declaration.2.Built := by
    intro declaration hm
    obtain rfl := List.mem_singleton.mp hm
    exact hpart
  exact @Schema.Built.record _ none _ hparts rfl

/-- A draft of one switch with handlers that act. -/
def switchDraft : StoreDraft :=
  { name := "switch", schema := some switchSchema, onInvalid := some .resetAll,
    onConflict := some .reload }

/-- The store of the switch. -/
def switchStore : Store :=
  ⟨"switch", some switchSchema, some (.object [("on", .bool false)]), some switchSchema, {},
    some .resetAll, some .reload⟩

/-- The switch is opened on a text that has to be repaired. Then someone else writes another such
text, on which turning the switch on runs into a conflict and loads again, and a second attempt
turns it on. -/
theorem accepts_of_switch_turned_on :
    ∃ (draft : StoreDraft) (opened session : Session Memory),
      draft.openOn (Memory.empty.write "switch" "[]") = (.ok switchStore, opened) ∧
      switchStore.Evolves (fun _ => True) (fun _ _ => True) opened session ∧
      session.events.length = 4 ∧ session.state.value = .object [("on", .bool true)] ∧
      ∃ schema, switchStore.validator = some schema ∧
        schema.accepts (some session.state.value) = true := by
  let opened := (switchDraft.openOn (Memory.empty.write "switch" "[]")).2
  have hopen : switchDraft.openOn (Memory.empty.write "switch" "[]") =
      (.ok switchStore, opened) := rfl
  have hshift : switchStore.Evolves (fun _ => True) (fun _ _ => True) opened
      { opened with medium := Memory.empty.write "switch" "7" } :=
    (Evolves.refl opened).outside trivial
  let attempt := Operation.set (.text "on") (.bool true)
  have hrun := @Evolves.performAll _ _ _ _ _ _ _ hshift trivial trivial [attempt, attempt]
    fun _ _ => trivial
  refine ⟨switchDraft, opened, _, hopen, hrun, rfl, rfl, accepts_of_openOn ?_ (.inl ?_) hopen hrun⟩
  · intro schema h
    obtain rfl := Option.some.inj h
    exact ⟨built_switchSchema, rfl⟩
  · exact Option.some_ne_none switchSchema

end Store

end ValidatedStore
