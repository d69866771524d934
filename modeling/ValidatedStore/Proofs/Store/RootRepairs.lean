import ValidatedStore.Proofs.Store.Validity

/-!
# Loads that replace the whole value

A source that fails as a whole is replaced with the default of the schema, also in a store that was
opened with a default of its own; and where the schema's default is absent it is replaced with
null. A load into a store with a schema and its own default therefore ends in an accepted value
exactly if the source does not fail as a whole or the schema accepts that replacement. And it ends
with the value that a load from nothing leaves, the default of the store, exactly if that
replacement is this default.
-/

namespace ValidatedStore

namespace Store

variable {μ : Type} [Medium μ] {store : Store} {schema : Schema} {callbacks : Callbacks μ}

/-- A load from a text that succeeds ends with the text's value, or with what a repair makes of
it. -/
theorem loadFrom_eq_true {text : String} {before after : Session μ}
    (hconflict : ∀ session, (callbacks.afterConflict session).state.value = session.state.value)
    (h : store.loadFrom callbacks (some text) before = (.ok true, after)) :
    ∃ value paths, store.examine text = (value, paths) ∧
      (paths = [] ∧ after.state.value = value ∨ ∃ template, store.template? = some template ∧
        value.repair template paths = .ok after.state.value) := by
  rw [loadFrom] at h
  split at h
  next value he =>
    have hv : (store.commitLoad callbacks value (some text) false before).2.state.value = value :=
      commitLoad_value hconflict value (some text) false before
    rw [h] at hv
    exact ⟨value, [], he, .inl ⟨rfl, hv⟩⟩
  next value path paths he =>
    split at h
    next =>
      unfold reject at h
      split at h
      next => cases (Prod.mk.inj h).1
      next => cases (Prod.mk.inj h).1
    next template ht =>
      dsimp only at h
      split at h
      next => cases (Prod.mk.inj h).1
      next repaired hr =>
        have hv : (store.commitLoad callbacks repaired (some text) true
          (store.reportRepair callbacks (path :: paths) before)).2.state.value = repaired :=
        commitLoad_value hconflict repaired (some text) true _
        rw [h] at hv
        refine ⟨value, path :: paths, he, .inr ⟨template, template?_of_repairTemplate? ht, ?_⟩⟩
        rw [hr, ← hv]

/-- A load into a store that was opened with a built schema and its own default ends in an accepted
value, whatever the handlers do, if the schema accepts what it replaces whole values with: its
default, or null for an absent one. If the handler of conflicts keeps values, a load from a text
that succeeds ends in an accepted value exactly if this holds or the text does not fail as a
whole. -/
theorem accepts_loadFrom_iff {draft : StoreDraft} {value : Value} {medium : μ}
    {opened before after : Session μ} {text : String} (hb : schema.Built)
    (hs : draft.schema = some schema) (hd : draft.default = some value)
    (hopen : draft.openOn medium = (.ok store, opened))
    (hrun : store.Evolves (fun _ => True) (fun _ _ => True) opened before)
    (hcallbacks : store.Uses (fun _ => True) (fun _ _ => True) callbacks)
    (hload : store.loadFrom callbacks (some text) before = (.ok true, after)) :
    (schema.accepts (some (schema.default?.getD .null)) = true →
      schema.accepts (some after.state.value) = true) ∧
    ((∀ session, (callbacks.afterConflict session).state.value = session.state.value) →
      (schema.accepts (some after.state.value) = true ↔
        (KeyPath.root ∈ (store.examine text).2 →
          schema.accepts (some (schema.default?.getD .null)) = true))) := by
  obtain ⟨hp, hopened⟩ : draft.prepare = .ok store ∧
      store.Evolves (fun _ => True) (fun _ _ => True) (store.start medium) opened :=
    evolves_of_openOn hopen trivial
  obtain ⟨hg, htemplate⟩ := guarded_of_schema hp hs hb
  have hroot : (Template.schema schema).defaultAt KeyPath.root = schema.default? := rfl
  refine ⟨fun hreplace => ?_, fun hconflict => ?_⟩
  · have hdefault : store.default = some value := by
      rw [(prepare_eq_ok hp).2]
      simp [StoreDraft.effectiveDefault, hd]
    have hreplaces : store.ReplacesRoot schema := by
      intro template ht
      obtain rfl := Option.some.inj (htemplate.symm.trans ht)
      rw [hroot]
      exact hreplace
    have hafter : store.Evolves (fun _ => True) (fun _ _ => True) opened
        (store.perform callbacks (.loadFrom (some text)) before).2 :=
      hrun.perform hcallbacks.afterInvalid hcallbacks.afterConflict trivial
    rw [perform, hload] at hafter
    exact hg.accepts_evolved hreplaces hdefault hopened hafter
  · obtain ⟨found, paths, he, hend⟩ := loadFrom_eq_true hconflict hload
    rw [he]
    rcases hend with ⟨rfl, rfl⟩ | ⟨template, ht, hr⟩
    · exact iff_of_true (hg.accepts_examined he) fun hm => by cases hm
    · obtain rfl := Option.some.inj (htemplate.symm.trans ht)
      have hiff := hg.accepts_repaired_iff he ht hr
      rw [hroot] at hiff
      exact hiff

/-- A text that may be absent, which is also the default of the schema. -/
def optionalText : Schema :=
  .union [.nullable false true, .string ⟨0, none, none⟩ (.string "")] none

theorem built_optionalText : optionalText.Built := by
  have habsent : (Schema.nullable false true).Built := @Schema.Built.nullable ⟨false, true⟩ _ rfl
  have htext : (Schema.string ⟨0, none, none⟩ (.string "")).Built := @Schema.Built.text {} _ rfl
  have hparts : ∀ member ∈ [Schema.nullable false true, .string ⟨0, none, none⟩ (.string "")],
      member.Built := by
    intro member hm
    rcases List.mem_cons.mp hm with rfl | hm
    · exact habsent
    · obtain rfl := List.mem_singleton.mp hm
      exact htext
  exact @Schema.Built.union _ none _ hparts rfl

/-- A store of such a text that gives a default of its own and does not look for conflicts. -/
def optionalDraft : StoreDraft :=
  { name := "note", schema := some optionalText, default := some (.string "x"),
    settings := { secure := false } }

/-- The optional text is loaded from a number, which the schema rejects as a whole, after a load
from a text that it accepts. -/
theorem accepts_loadFrom_iff_of_number :
    ∃ (store : Store) (opened before after : Session Memory),
      optionalText.Built ∧ optionalDraft.openOn Memory.empty = (.ok store, opened) ∧
      store.Evolves (fun _ => True) (fun _ _ => True) opened before ∧
      before.state.value = .string "y" ∧
      store.loadFrom Callbacks.passive (some "5") before = (.ok true, after) ∧
      (optionalText.accepts (some after.state.value) = true ↔
        (KeyPath.root ∈ (store.examine "5").2 →
          optionalText.accepts (some (optionalText.default?.getD .null)) = true)) := by
  let store : Store :=
    ⟨"note", some optionalText, some (.string "x"), some optionalText, { secure := false }, none,
      none⟩
  let opened := (optionalDraft.openOn Memory.empty).2
  let before := (store.perform Callbacks.passive (.loadFrom (some "\"y\"")) opened).2
  let after := (store.loadFrom Callbacks.passive (some "5") before).2
  have hopen : optionalDraft.openOn Memory.empty = (.ok store, opened) := rfl
  have hrun : store.Evolves (fun _ => True) (fun _ _ => True) opened before :=
    evolves_perform_passive trivial opened
  have hload : store.loadFrom Callbacks.passive (some "5") before = (.ok true, after) := rfl
  exact ⟨store, opened, before, after, built_optionalText, hopen, hrun, rfl, hload,
    (accepts_loadFrom_iff built_optionalText rfl rfl hopen hrun uses_passive hload).2
      fun _ => rfl⟩

/-- A store that repairs what it loads, opened with a built schema and a default that the schema
accepts, can load successfully and end with a value that the schema rejects. -/
theorem exists_loadFrom_rejected :
    ∃ (store : Store) (opened after : Session Memory),
      optionalText.Built ∧ optionalDraft.schema = some optionalText ∧
      optionalDraft.default = some (.string "x") ∧ optionalDraft.settings.autoFix = true ∧
      optionalDraft.openOn Memory.empty = (.ok store, opened) ∧
      store.loadFrom store.callbacks (some "5") opened = (.ok true, after) ∧
      optionalText.accepts (some after.state.value) = false := by
  let store : Store :=
    ⟨"note", some optionalText, some (.string "x"), some optionalText, { secure := false }, none,
      none⟩
  let opened := (optionalDraft.openOn Memory.empty).2
  let after := (store.loadFrom store.callbacks (some "5") opened).2
  have hopen : optionalDraft.openOn Memory.empty = (.ok store, opened) := rfl
  have hload : store.loadFrom store.callbacks (some "5") opened = (.ok true, after) := rfl
  exact ⟨store, opened, after, built_optionalText, rfl, rfl, rfl, hopen, hload, rfl⟩

section WholeDefaults

variable {draft : StoreDraft}

/-- A store with a validator has a default. -/
theorem exists_default_of_validator (h : draft.prepare = .ok store)
    (hv : store.validator.isSome = true) : ∃ value, store.default = some value := by
  obtain ⟨hvalidator, he⟩ := prepare_eq_ok h
  have hdefault : store.default = draft.effectiveDefault := by rw [he]
  rw [hdefault, StoreDraft.effectiveDefault]
  unfold StoreDraft.validator at hvalidator
  cases hd : draft.default with
  | some value => exact ⟨value, rfl⟩
  | none =>
    cases hs : draft.schema with
    | none =>
      rw [hs, hd] at hvalidator
      rw [← Except.ok.inj hvalidator] at hv
      cases hv
    | some schema =>
      rw [hs, hd] at hvalidator
      dsimp only at hvalidator
      split at hvalidator
      next own hown => exact ⟨own, hown⟩
      next => cases hvalidator

/-- A text that fails as a whole is taken for what the template has for the whole value, or for null
where it has nothing. -/
theorem loadFrom_of_root_mem {text : String} {template : Template}
    (ht : store.repairTemplate? = some template) (hroot : KeyPath.root ∈ (store.examine text).2)
    (session : Session μ) :
    store.loadFrom callbacks (some text) session =
      store.commitLoad callbacks ((template.defaultAt KeyPath.root).getD .null) (some text) true
        (store.reportRepair callbacks [KeyPath.root] session) := by
  cases he : store.examine text with
  | mk value paths =>
    rw [he] at hroot
    obtain rfl := paths_of_root_mem he hroot
    rw [loadFrom, he]
    dsimp only
    rw [ht]
    dsimp only
    rw [Value.repair_root]

/-- In an opened store that has a validator and repairs what it loads, a load from nothing leaves
the default of the store, and a load from a text that fails as a whole leaves the default of the
schema where there is a schema, and null where that default is absent. So the two leave the same
value exactly if the store has no schema or its default is that of the schema, and in any case if
the store was opened without a default of its own next to the schema. -/
theorem loadFrom_eq_default_iff {medium : μ} {opened : Session μ} {text : String}
    (hopen : draft.openOn medium = (.ok store, opened))
    (hvalidator : store.validator.isSome = true) (hfix : store.settings.autoFix = true)
    (hconflict : ∀ session, (callbacks.afterConflict session).state.value = session.state.value)
    (hroot : KeyPath.root ∈ (store.examine text).2) :
    ∃ value, store.default = some value ∧ ∀ before : Session μ,
      (store.loadFrom callbacks none before).2.state.value = value ∧
      ((store.loadFrom callbacks (some text) before).2.state.value = value ↔
        ∀ schema, draft.schema = some schema → schema.default?.getD .null = value) ∧
      (draft.schema = none ∨ draft.default = none →
        (store.loadFrom callbacks (some text) before).2.state.value = value) := by
  have hp := prepare_of_openOn hopen
  obtain ⟨value, hd⟩ := exists_default_of_validator hp hvalidator
  have he := (prepare_eq_ok hp).2
  refine ⟨value, hd, fun before => ?_⟩
  have hnone : (store.loadFrom callbacks none before).2.state.value = value := by
    rw [loadFrom, hd]
    exact commitLoad_value hconflict value none false before
  have hwhole : ∀ template, store.template? = some template →
      (store.loadFrom callbacks (some text) before).2.state.value =
        (template.defaultAt KeyPath.root).getD .null := by
    intro template ht
    have hrepair : store.repairTemplate? = some template := by rw [repairTemplate?, if_pos hfix, ht]
    rw [loadFrom_of_root_mem hrepair hroot]
    exact commitLoad_value hconflict _ (some text) true _
  cases hs : draft.schema with
  | none =>
    have ht : store.template? = some (.sample value) := by
      rw [template?, hd, he, hs]
    have hsample : (store.loadFrom callbacks (some text) before).2.state.value = value :=
      hwhole _ ht
    exact ⟨hnone, iff_of_true hsample (by simp), fun _ => hsample⟩
  | some schema =>
    have ht : store.template? = some (.schema schema) := by rw [template?, he, hs]
    have hschema : (store.loadFrom callbacks (some text) before).2.state.value =
        schema.default?.getD .null := hwhole _ ht
    rw [hschema]
    refine ⟨hnone, ⟨fun h other ho => ?_, fun h => h schema rfl⟩, fun h => ?_⟩
    · obtain rfl := Option.some.inj ho
      exact h
    · have hown := h.resolve_left (Option.some_ne_none schema)
      have hdefault : schema.default? = some value := by
        rw [← hd, he, StoreDraft.effectiveDefault, hown, hs]
        rfl
      rw [hdefault]
      rfl

/-- A switch that is on by default, although its schema has it off, and that does not look for
conflicts. -/
def lampDraft : StoreDraft :=
  { name := "lamp", schema := some switchSchema, default := some (.object [("on", .bool true)]),
    settings := { secure := false } }

/-- The store of that switch. -/
def lampStore : Store :=
  ⟨"lamp", some switchSchema, some (.object [("on", .bool true)]), some switchSchema,
    { secure := false }, none, none⟩

/-- A switch that is off by default, as its schema has it, is loaded from a number. -/
theorem loadFrom_eq_default_iff_of_switch :
    ∃ opened : Session Memory, switchDraft.openOn Memory.empty = (.ok switchStore, opened) ∧
      switchStore.validator.isSome = true ∧ switchStore.settings.autoFix = true ∧
      KeyPath.root ∈ (switchStore.examine "7").2 ∧
      (switchStore.loadFrom Callbacks.passive (some "7") opened).2.state.value =
        .object [("on", .bool false)] := by
  let opened := (switchDraft.openOn Memory.empty).2
  have hopen : switchDraft.openOn Memory.empty = (.ok switchStore, opened) := rfl
  have hroot : KeyPath.root ∈ (switchStore.examine "7").2 := List.mem_singleton_self _
  obtain ⟨value, hd, hloads⟩ :=
    @loadFrom_eq_default_iff Memory _ switchStore Callbacks.passive switchDraft _ _ "7" hopen rfl
      rfl (fun _ => rfl) hroot
  obtain rfl := Option.some.inj hd
  exact ⟨opened, hopen, rfl, rfl, hroot, (hloads opened).2.2 (.inr rfl)⟩

/-- A store with a validator that repairs what it loads can be opened with a default of its own, and
then a load from a text that fails as a whole succeeds and leaves another value, while a load from
nothing leaves that default. -/
theorem exists_loadFrom_ne_default :
    ∃ (opened after : Session Memory),
      lampDraft.openOn Memory.empty = (.ok lampStore, opened) ∧
      lampStore.validator.isSome = true ∧ lampStore.settings.autoFix = true ∧
      KeyPath.root ∈ (lampStore.examine "7").2 ∧
      lampStore.loadFrom lampStore.callbacks (some "7") opened = (.ok true, after) ∧
      lampStore.default = some (.object [("on", .bool true)]) ∧
      (lampStore.loadFrom lampStore.callbacks none opened).2.state.value =
        .object [("on", .bool true)] ∧
      after.state.value = .object [("on", .bool false)] :=
  ⟨(lampDraft.openOn Memory.empty).2,
    (lampStore.loadFrom lampStore.callbacks (some "7") (lampDraft.openOn Memory.empty).2).2, rfl,
    rfl, rfl, List.mem_singleton_self _, rfl, rfl, rfl, rfl⟩

end WholeDefaults

end Store

end ValidatedStore
