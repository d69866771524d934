import ValidatedStore.Proofs.Schema.Restoring
import ValidatedStore.Proofs.Store.Addressing
import ValidatedStore.Proofs.Store.WellFormed
import ValidatedStore.Proofs.Value.Walking

/-!
# What a reset does and how it fails

A reset looks at the value, asks the template for the default of the part, restores it in a copy and
checks the whole. At a declared path none of this ever refuses: the part can be restored, and a
fitting template has something acceptable there, or an acceptable absence. So the reset works as long
as the save that it requests does. Elsewhere it may decline, and then it changes nothing. But without
a schema the default of the part comes from a sample; and where the sample has an object, or a longer
array, the value may have an array without a slot for the part. There the reset complains.
-/

namespace ValidatedStore

namespace Value

variable {value : Value} {path : KeyPath} {replacement : Option Value}

/-- At a path that resolves a part can always be removed, and written unless it would belong into an
array without a slot for it. -/
theorem restore_error_iff (h : value.resolves path = true) :
    (∃ fault, value.restore path replacement = .error fault) ↔
      replacement ≠ none ∧ ∃ parent key items, path = parent ++ [key] ∧
        value.find parent = .ok (some (.array items)) ∧ NoSlot items.length key := by
  obtain ⟨found, hf⟩ := resolves_iff.mp h
  cases path with
  | nil => cases replacement <;> simp [restore, overwrite, clear]
  | cons first rest =>
    have hne : first :: rest ≠ [] := List.cons_ne_nil first rest
    cases replacement with
    | none =>
      have hremoved := map_snd_delete value hne
      rw [hf] at hremoved
      cases hd : value.delete (first :: rest) with
      | error fault =>
        rw [hd] at hremoved
        cases hremoved
      | ok removed => simp [restore, clear, hd, Except.map]
    | some new =>
      rw [← @edit_writeChild_error_iff value new _ found hne hf, restore, overwrite, set]
      cases edit (writeChild new) value (first :: rest) <;> simp [Except.map]

end Value

namespace Store

variable {μ : Type} [Medium μ] {store : Store} {schema : Schema} {session after : Session μ}
  {callbacks : Callbacks μ} {selector : Selector} {draft : StoreDraft}

section Declining

/-- A reset declines, complains about its path, or commits; in the first two cases nothing is
changed. -/
theorem reset_cases (store : Store) (callbacks : Callbacks μ) (selector : Selector)
    (session : Session μ) :
    store.reset callbacks selector session = (.ok false, session) ∨
    (∃ fault, session.state.value.resolves (store.resolve selector) = true ∧
      session.state.value.restore (store.resolve selector)
        (store.defaultAt (store.resolve selector)) = .error fault ∧
      store.reset callbacks selector session =
        (.error (.invalidPath (store.resolve selector) fault), session)) ∨
    ∃ restored, session.state.value.restore (store.resolve selector)
        (store.defaultAt (store.resolve selector)) = .ok restored ∧
      store.reset callbacks selector session = store.commit callbacks restored session := by
  unfold reset
  dsimp only
  split
  next hresolves =>
    split
    next fault hr => exact .inr (.inl ⟨fault, hresolves, hr, rfl⟩)
    next restored hr =>
      split
      next => exact .inr (.inr ⟨restored, hr, rfl⟩)
      next => exact .inl rfl
  next => exact .inl rfl

/-- A reset that declines changes nothing. -/
theorem unchanged_of_reset (h : store.reset callbacks selector session = (.ok false, after)) :
    after = session := by
  rcases reset_cases store callbacks selector session with
    hdecline | ⟨_, _, _, hfault⟩ | ⟨restored, _, hcommit⟩
  · exact (Prod.mk.inj (hdecline.symm.trans h)).2.symm
  · cases (Prod.mk.inj (hfault.symm.trans h)).1
  · rw [hcommit, commit_eq] at h
    cases Outcome.eq_of_succeeding_eq_ok h

/-- A reset complains about its path exactly if the path resolves and the default of the part cannot
be written there. -/
theorem reset_eq_invalidPath_iff :
    (∃ path fault, (store.reset callbacks selector session).1 = .error (.invalidPath path fault)) ↔
      session.state.value.resolves (store.resolve selector) = true ∧
        ∃ fault, session.state.value.restore (store.resolve selector)
          (store.defaultAt (store.resolve selector)) = .error fault := by
  constructor
  · rintro ⟨path, fault, h⟩
    rcases reset_cases store callbacks selector session with
      hdecline | ⟨fault, hresolves, hr, _⟩ | ⟨restored, _, hcommit⟩
    · rw [hdecline] at h
      cases h
    · exact ⟨hresolves, fault, hr⟩
    · rw [hcommit] at h
      exact absurd h (commit_ne_invalidPath fault)
  · rintro ⟨hresolves, fault, hr⟩
    refine ⟨store.resolve selector, fault, ?_⟩
    unfold reset
    dsimp only
    rw [if_pos hresolves, hr]

/-- Every error of a reset is one of the save that it requests, or a complaint about its path. -/
theorem reset_error {e : StoreError} (h : (store.reset callbacks selector session).1 = .error e) :
    e.concernsMedium = true ∨ ∃ fault, e = .invalidPath (store.resolve selector) fault := by
  rcases reset_cases store callbacks selector session with
    hdecline | ⟨fault, _, _, hfault⟩ | ⟨restored, _, hcommit⟩
  · rw [hdecline] at h
    cases h
  · rw [hfault] at h
    exact .inr ⟨fault, (Except.error.inj h).symm⟩
  · rw [hcommit] at h
    exact .inl (concernsMedium_of_commit h)

end Declining

section Working

/-- A save meets neither a failure of the medium nor a conflict. -/
structure Unhindered (store : Store) (session : Session μ) : Prop where
  /-- A secure store finds in the medium what it saw there last. -/
  read : store.settings.secure = true →
    Medium.read session.medium store.name = .ok session.state.baseline
  /-- Whatever is written is taken. -/
  write : ∀ text, ∃ medium, Medium.write session.medium store.name text = (.ok (), medium)

/-- An unhindered save writes and keeps the value. -/
theorem Unhindered.exists_saveNow (h : store.Unhindered session) :
    ∃ after, store.saveNow callbacks session = (.ok true, after) ∧
      after.state.value = session.state.value := by
  have hwrite : store.saveNow callbacks session = store.write session := by
    unfold saveNow
    split
    next hs =>
      rw [h.read hs]
      exact if_pos rfl
    next => rfl
  obtain ⟨medium, hm⟩ := h.write (Json.print session.state.value)
  refine ⟨(store.write session).2, ?_, write_value store session⟩
  rw [hwrite, Store.write]
  dsimp only
  rw [hm]

/-- An unhindered commit works, whether its save is put off or not. -/
theorem Unhindered.exists_commit (h : store.Unhindered session) (value : Value) :
    ∃ after, store.commit callbacks value session = (.ok true, after) ∧
      after.state.value = value := by
  rw [commit_eq, requestSave_eq]
  split
  next => exact ⟨_, rfl, rfl⟩
  next =>
    have hcommitted : store.Unhindered
        { session with state := { session.state with value := value } } :=
      ⟨h.read, h.write⟩
    obtain ⟨after, hsave, hvalue⟩ := hcommitted.exists_saveNow
    exact ⟨after, by rw [hsave]; rfl, hvalue⟩

/-- A reset works where the part can be restored to an accepted whole. -/
theorem Unhindered.exists_reset (h : store.Unhindered session) {restored : Value}
    (hresolves : session.state.value.resolves (store.resolve selector) = true)
    (hr : session.state.value.restore (store.resolve selector)
      (store.defaultAt (store.resolve selector)) = .ok restored)
    (hv : store.failures restored = []) :
    ∃ after, store.reset callbacks selector session = (.ok true, after) ∧
      after.state.value = restored := by
  obtain ⟨after, hcommit, hvalue⟩ := h.exists_commit restored
  refine ⟨after, ?_, hvalue⟩
  unfold reset
  dsimp only
  rw [if_pos hresolves, hr]
  dsimp only
  rw [hv, List.isEmpty_nil, if_pos rfl, hcommit]

end Working

section Defaults

variable {whole : Schema} {sample : Value} {path : KeyPath}

/-- A store with a schema has the schema's defaults for its template. -/
theorem defaultAt_of_schema (hp : draft.prepare = .ok store) (hs : draft.schema = some whole) :
    store.defaultAt path = (Template.schema whole).defaultAt path := by
  rw [defaultAt, (prepare_eq_ok hp).2, template?, hs]
  rfl

/-- A store without a schema has its default for its template, if there is one. -/
theorem defaultAt_of_default (hp : draft.prepare = .ok store) (hs : draft.schema = none) :
    store.defaultAt path =
      draft.default.bind fun sample => (Template.sample sample).defaultAt path := by
  rw [defaultAt, (prepare_eq_ok hp).2, template?, StoreDraft.effectiveDefault, hs]
  cases draft.default <;> rfl

/-- What a sample has for a path is what stands there. -/
theorem defaultAt_sample_eq_some_iff {new : Value} :
    (Template.sample sample).defaultAt path = some new ↔ sample.find path = .ok (some new) := by
  rw [Template.defaultAt]
  cases sample.find path <;> simp

end Defaults

section Declared

/-- What a reset of a declared part is to come to. -/
structure ResetTo (draft : StoreDraft) (schema : Schema) (path : KeyPath) (before after : Value) :
    Prop where
  /-- The whole is accepted. -/
  accepted : schema.accepts (some after) = true
  /-- With a schema, the part is the default of the schema declared there, or missing. -/
  of_schema : ∀ whole inner, draft.schema = some whole → whole.declared path = .ok inner →
    after.find path = .ok inner.default?
  /-- Without one, the part is what the default of the store has there, or missing. -/
  of_default : ∀ sample, draft.schema = none → draft.default = some sample →
    after.find path = sample.find path
  /-- What neither leads to the part nor stands below it is the same, faults included. -/
  elsewhere : ∀ other, path.Apart other → after.find other = before.find other

variable {inner : Schema} {path : KeyPath}

/-- A store that has a default has a template, and the template has something for the whole. -/
theorem exists_template (hp : draft.prepare = .ok store)
    (hschema : ∀ schema, draft.schema = some schema →
      schema.Built ∧ schema.default?.isSome = true)
    (hsome : draft.schema ≠ none ∨ draft.default ≠ none) :
    ∃ template, store.template? = some template ∧ template.defaultAt KeyPath.root ≠ none := by
  have he := (prepare_eq_ok hp).2
  cases hs : draft.schema with
  | some whole =>
    exact ⟨.schema whole, by rw [he, template?, hs],
      Option.isSome_iff_ne_none.mp (hschema whole hs).2⟩
  | none =>
    obtain ⟨sample, hsample⟩ := Option.ne_none_iff_exists'.mp (hsome.resolve_left fun h => h hs)
    have hdefault : draft.effectiveDefault = some sample := by
      rw [StoreDraft.effectiveDefault, hsample, Option.some_or]
    exact ⟨.sample sample, by rw [he, template?, hs, hdefault], Option.some_ne_none sample⟩

/-- The default of a declared part is acceptable there, and there is one for the whole. -/
theorem Guarded.accepts_defaultAt (hg : store.Guarded schema) (hp : draft.prepare = .ok store)
    (hschema : ∀ schema, draft.schema = some schema →
      schema.Built ∧ schema.default?.isSome = true)
    (hsome : draft.schema ≠ none ∨ draft.default ≠ none)
    (hd : schema.declared path = .ok inner) :
    inner.accepts (store.defaultAt path) = true ∧
      (path = KeyPath.root → store.defaultAt path ≠ none) := by
  obtain ⟨template, ht, hwhole⟩ := exists_template hp hschema hsome
  rw [defaultAt, ht, Option.bind_some]
  exact ⟨(hg.fits ht).accepted hd, fun he => he ▸ hwhole⟩

/-- A part that was restored with its default is what a reset is to come to. -/
theorem Guarded.resetTo_of_restoredTo (hg : store.Guarded schema)
    (hp : draft.prepare = .ok store) (hd : schema.declared path = .ok inner)
    {before after : Value} (h : schema.RestoredTo path (store.defaultAt path) before after) :
    ResetTo draft schema path before after where
  accepted := h.accepted
  of_schema whole inner hs hdeclared := by
    rw [h.at_path, defaultAt_of_schema hp hs, Template.defaultAt, hdeclared]
  of_default sample hs hsample := by
    have hdefault : store.default = some sample := by
      rw [(prepare_eq_ok hp).2, StoreDraft.effectiveDefault, hsample]
      rfl
    obtain ⟨found, hf, _⟩ := Schema.find_declared (hg.accepts_default hdefault) hd
    rw [h.at_path, defaultAt_of_default hp hs, hsample, Option.bind_some, Template.defaultAt, hf]
  elsewhere := h.elsewhere

/-- In a store that is opened with a built schema that has a default, or with a default alone, and
used in any way, a reset at a declared path works whenever a save would. It leaves the default of
the part, keeps the whole accepted, and touches nothing apart from the part. At any path, a reset
that returns false has changed nothing. -/
theorem resets_declared {shifts : μ → μ → Prop} {medium : μ} {opened : Session μ}
    (hdraft : draft.WellFormed)
    (hschema : ∀ schema, draft.schema = some schema →
      schema.Built ∧ schema.default?.isSome = true)
    (hsome : draft.schema ≠ none ∨ draft.default ≠ none)
    (hopen : draft.openOn medium = (.ok store, opened))
    (hrun : store.Evolves Operation.WellFormed shifts opened session) :
    ∃ schema, store.validator = some schema ∧ ∀ (callbacks : Callbacks μ) selector,
      (schema.declares (store.resolve selector) = true → store.Unhindered session →
        ∃ after, store.reset callbacks selector session = (.ok true, after) ∧
          ResetTo draft schema (store.resolve selector) session.state.value after.state.value) ∧
      ∀ after, store.reset callbacks selector session = (.ok false, after) → after = session := by
  obtain ⟨hp, hopened⟩ : draft.prepare = .ok store ∧
      store.Evolves Operation.WellFormed shifts (store.start medium) opened :=
    evolves_of_openOn hopen trivial
  obtain ⟨schema, value, hg, hroot, hdefault⟩ := exists_guarded hp hschema hsome
  have ha := hg.accepts_evolved hroot hdefault hopened hrun
  have hw := wellFormed_of_openOn hdraft hopen hrun
  refine ⟨schema, hg.validator, fun callbacks selector => ⟨fun hdeclares hsave => ?_,
    fun after => unchanged_of_reset⟩⟩
  cases hd : schema.declared (store.resolve selector) with
  | error fault =>
    rw [Schema.declares, hd] at hdeclares
    cases hdeclares
  | ok inner =>
    obtain ⟨hfits, hwhole⟩ := hg.accepts_defaultAt hp hschema hsome hd
    obtain ⟨restored, hr, hrestored⟩ :=
      Schema.exists_restoredTo hg.wellFormed hw ha hd hfits hwhole
    obtain ⟨found, hf, _⟩ := Schema.find_declared ha hd
    obtain ⟨after, hreset, hvalue⟩ := hsave.exists_reset (Value.resolves_iff.mpr ⟨found, hf⟩) hr
      (hg.failures_eq_nil_iff.mpr hrestored.accepted)
    exact ⟨after, hreset, hvalue ▸ hg.resetTo_of_restoredTo hp hd hrestored⟩

/-- A draft of two switches that is given by their default alone. -/
def panelDraft : StoreDraft :=
  { name := "panel", default := some (.object [("light", .bool false), ("sound", .bool true)]) }

/-- The store of the two switches. -/
def panelStore : Store :=
  ⟨"panel", none, some (.object [("light", .bool false), ("sound", .bool true)]),
    some (.record [("light", .boolean (.bool false)), ("sound", .boolean (.bool true))]
      (.object [("light", .bool false), ("sound", .bool true)])), {}, none, none⟩

/-- Both switches are turned over, and one of them is reset. -/
theorem resets_declared_of_panel :
    ∃ opened session after : Session Memory, panelDraft.WellFormed ∧
      panelDraft.openOn Memory.empty = (.ok panelStore, opened) ∧
      panelStore.Evolves Operation.WellFormed (fun _ _ => False) opened session ∧
      panelStore.Unhindered session ∧
      session.state.value = .object [("light", .bool true), ("sound", .bool false)] ∧
      panelStore.reset Callbacks.passive (.text "light") session = (.ok true, after) ∧
      after.state.value.find ["light"] = .ok (some (.bool false)) ∧
      after.state.value.find ["sound"] = session.state.value.find ["sound"] := by
  let opened := (panelDraft.openOn Memory.empty).2
  let turned : Value := .object [("light", .bool true), ("sound", .bool false)]
  let session := (panelStore.perform Callbacks.passive (.set (.text "") turned) opened).2
  have hdraft : panelDraft.WellFormed := by
    refine ⟨fun {value} h => ?_, fun h => by cases h⟩
    obtain rfl := Option.some.inj h
    simp [Value.WellFormed, Value.WellFormedEntries, Fields.Distinct]
  have hturned : turned.WellFormed := by
    simp [turned, Value.WellFormed, Value.WellFormedEntries, Fields.Distinct]
  have hopen : panelDraft.openOn Memory.empty = (.ok panelStore, opened) := rfl
  have hrun : panelStore.Evolves Operation.WellFormed (fun _ _ => False) opened session :=
    evolves_perform_passive (Operation.wellFormed_set _ hturned) opened
  have hsave : panelStore.Unhindered session := ⟨fun _ => rfl, fun _ => ⟨_, rfl⟩⟩
  obtain ⟨schema, hv, hresets⟩ := resets_declared hdraft (fun _ h => by cases h)
    (.inr (Option.some_ne_none _)) hopen hrun
  obtain rfl := Option.some.inj hv
  obtain ⟨after, hreset, hto⟩ := (hresets Callbacks.passive (.text "light")).1 rfl hsave
  exact ⟨opened, session, after, hdraft, hopen, hrun, hsave, rfl, hreset,
    hto.of_default _ rfl rfl, hto.elsewhere ["sound"] (KeyPath.apart_cons_of_ne (by decide))⟩

end Declared

section Structural

/-- The default of a store without a schema has something for a path at which the value has no room
for it: an array that lacks a slot for the last key. -/
structure NoRoom (draft : StoreDraft) (value : Value) (path : KeyPath) : Prop where
  /-- No schema is given. -/
  no_schema : draft.schema = none
  /-- The default has something there, and the value an array around it. -/
  no_slot : ∃ sample new parent key items, draft.default = some sample ∧
    sample.find path = .ok (some new) ∧ path = parent ++ [key] ∧
    value.find parent = .ok (some (.array items)) ∧ NoSlot items.length key

/-- A schema that declares something below the root has a default, so that the store that is opened
with it holds an accepted value. There the container of what is declared is never an array. -/
theorem not_array_of_declared {shifts : μ → μ → Prop} {medium : μ} {opened : Session μ}
    {whole inner : Schema} {parent : KeyPath} {key : String} {items : List Value}
    (hs : draft.schema = some whole) (hb : whole.Built)
    (hopen : draft.openOn medium = (.ok store, opened))
    (hrun : store.Evolves (fun _ => True) shifts opened session)
    (hd : whole.declared (parent ++ [key]) = .ok inner) :
    session.state.value.find parent ≠ .ok (some (.array items)) := by
  obtain ⟨hp, hopened⟩ : draft.prepare = .ok store ∧
      store.Evolves (fun _ => True) shifts (store.start medium) opened :=
    evolves_of_openOn hopen trivial
  -- Only a record declares something below the root, and a record always has a default.
  have hdefault : whole.default?.isSome = true := by
    obtain ⟨first, rest, hpath⟩ := List.exists_cons_of_ne_nil
      (List.append_ne_nil_of_right_ne_nil parent (List.cons_ne_nil key []))
    obtain ⟨fields, fallback, _, rfl, _, _⟩ := Schema.declared_cons_eq_ok_iff.mp (hpath ▸ hd)
    rfl
  have hschema : ∀ schema, draft.schema = some schema →
      schema.Built ∧ schema.default?.isSome = true := by
    intro schema h
    obtain rfl := Option.some.inj (hs.symm.trans h)
    exact ⟨hb, hdefault⟩
  obtain ⟨schema, value, hg, hroot, hstore⟩ :=
    exists_guarded hp hschema (.inl (hs ▸ Option.some_ne_none whole))
  obtain rfl : schema = whole :=
    Option.some.inj (hg.validator.symm.trans (guarded_of_schema hp hs hb).1.validator)
  have ha := hg.accepts_evolved hroot hstore hopened hrun
  obtain ⟨entries, hobject⟩ := Schema.find_object_of_declared ha hd
  intro harray
  cases hobject.symm.trans harray

/-- Where there is no room, the path resolves, and the default of the part cannot be written. -/
theorem NoRoom.exists_error {value : Value} {path : KeyPath} (h : NoRoom draft value path)
    (hp : draft.prepare = .ok store) :
    value.resolves path = true ∧
      ∃ fault, value.restore path (store.defaultAt path) = .error fault := by
  obtain ⟨hs, sample, new, parent, key, items, hsample, hfound, rfl, harray, hslot⟩ := h
  have hnew : store.defaultAt (parent ++ [key]) = some new := by
    rw [defaultAt_of_default hp hs, hsample, Option.bind_some]
    exact defaultAt_sample_eq_some_iff.mpr hfound
  have hresolves : value.resolves (parent ++ [key]) = true := by
    rw [Value.resolves, KeyPath.splitLast?_append_singleton]
    dsimp only
    rw [harray]
  rw [hnew]
  exact ⟨hresolves, (Value.restore_error_iff hresolves).mpr
    ⟨Option.some_ne_none new, parent, key, items, rfl, harray, hslot⟩⟩

/-- Where the path resolves and the default of the part cannot be written, there is no room. -/
theorem noRoom_of_error {shifts : μ → μ → Prop} {medium : μ} {opened : Session μ}
    {path : KeyPath} {fault : PathFault}
    (hbuilt : ∀ schema, draft.schema = some schema → schema.Built)
    (hopen : draft.openOn medium = (.ok store, opened))
    (hrun : store.Evolves (fun _ => True) shifts opened session)
    (hresolves : session.state.value.resolves path = true)
    (hfault : session.state.value.restore path (store.defaultAt path) = .error fault) :
    NoRoom draft session.state.value path := by
  have hp := prepare_of_openOn hopen
  obtain ⟨hsome, parent, key, items, rfl, harray, hslot⟩ :=
    (Value.restore_error_iff hresolves).mp ⟨fault, hfault⟩
  obtain ⟨new, hnew⟩ := Option.ne_none_iff_exists'.mp hsome
  cases hs : draft.schema with
  | some whole =>
    rw [defaultAt_of_schema hp hs, Template.defaultAt] at hnew
    cases hd : whole.declared (parent ++ [key]) with
    | error undeclared =>
      rw [hd] at hnew
      cases hnew
    | ok inner =>
      exact absurd harray (not_array_of_declared hs (hbuilt whole hs) hopen hrun hd)
  | none =>
    rw [defaultAt_of_default hp hs] at hnew
    obtain ⟨sample, hsample, hfound⟩ := Option.bind_eq_some_iff.mp hnew
    exact ⟨hs, sample, new, parent, key, items, hsample,
      defaultAt_sample_eq_some_iff.mp hfound, rfl, harray, hslot⟩

/-- The errors of a reset in an opened store with a built schema, or without one, are those of the
save that it requests, and complaints about its path; and it complains exactly if the store has no
schema, and its default has something for the path where the value has an array without a slot for
the last key. -/
theorem reset_complains_iff {shifts : μ → μ → Prop} {medium : μ} {opened : Session μ}
    (hbuilt : ∀ schema, draft.schema = some schema → schema.Built)
    (hopen : draft.openOn medium = (.ok store, opened))
    (hrun : store.Evolves (fun _ => True) shifts opened session)
    (callbacks : Callbacks μ) (selector : Selector) :
    (∀ e, (store.reset callbacks selector session).1 = .error e → e.concernsMedium = true ∨
      ∃ fault, e = .invalidPath (store.resolve selector) fault) ∧
    ((∃ path fault,
        (store.reset callbacks selector session).1 = .error (.invalidPath path fault)) ↔
      NoRoom draft session.state.value (store.resolve selector)) := by
  refine ⟨fun _ => reset_error, ?_⟩
  rw [reset_eq_invalidPath_iff]
  constructor
  · rintro ⟨hresolves, fault, hfault⟩
    exact noRoom_of_error hbuilt hopen hrun hresolves hfault
  · exact fun h => h.exists_error (prepare_of_openOn hopen)

/-- A draft without a schema of an array whose items are an object and an array. -/
def rowsDraft : StoreDraft :=
  { name := "rows", default := some (.array [.object [("x", .null)], .array []]) }

/-- The store of that array. -/
def rowsStore : Store :=
  ⟨"rows", none, some (.array [.object [("x", .null)], .array []]),
    some (.list
      (.union [.record [("x", .nullable true false)] (.object [("x", .null)]),
        .list (.any .null) (.array [])] (some (.object [("x", .null)])))
      (.array [.object [("x", .null)], .array []])), {}, none, none⟩

/-- Where the first item has become an array, a reset of the field that it had complains: the
default has the field, and the array has no slot for its name. -/
theorem reset_complains_of_rows :
    ∃ opened session : Session Memory, rowsDraft.openOn Memory.empty = (.ok rowsStore, opened) ∧
      rowsStore.Evolves (fun _ => True) (fun _ _ => False) opened session ∧
      session.state.value = .array [.array []] ∧
      NoRoom rowsDraft session.state.value (rowsStore.resolve (.text "0.x")) ∧
      ∃ path fault, (rowsStore.reset Callbacks.passive (.text "0.x") session).1 =
        .error (.invalidPath path fault) := by
  let opened := (rowsDraft.openOn Memory.empty).2
  let change := Operation.set (.text "") (.array [.array []])
  let session := (rowsStore.perform Callbacks.passive change opened).2
  have hopen : rowsDraft.openOn Memory.empty = (.ok rowsStore, opened) := rfl
  have hrun : rowsStore.Evolves (fun _ => True) (fun _ _ => False) opened session :=
    evolves_perform_passive trivial opened
  have hbuilt : ∀ schema, rowsDraft.schema = some schema → schema.Built := fun _ h => by cases h
  have hno : NoRoom rowsDraft session.state.value (rowsStore.resolve (.text "0.x")) := by
    have hname : arrayIndex? "x" = none := by decide
    exact ⟨rfl, _, .null, ["0"], "x", [], rfl, rfl, rfl, rfl,
      .noIndex (arrayIndex?_eq_none_iff.mp hname)⟩
  have hreset := reset_complains_iff hbuilt hopen hrun Callbacks.passive (.text "0.x")
  exact ⟨opened, session, hopen, hrun, rfl, hno, hreset.2.mpr hno⟩

/-- A reset in a store without a schema can complain about a path that resolves in the value. -/
theorem exists_reset_complaint :
    ∃ opened session : Session Memory, rowsDraft.openOn Memory.empty = (.ok rowsStore, opened) ∧
      rowsStore.Evolves (fun _ => True) (fun _ _ => False) opened session ∧
      session.state.value.resolves (rowsStore.resolve (.text "0.x")) = true ∧
      rowsStore.reset rowsStore.callbacks (.text "0.x") session =
        (.error (.invalidPath ["0", "x"] (.notAnIndex "x")), session) := by
  let opened := (rowsDraft.openOn Memory.empty).2
  let change := Operation.set (.text "") (.array [.array []])
  let session := (rowsStore.perform Callbacks.passive change opened).2
  have hrun : rowsStore.Evolves (fun _ => True) (fun _ _ => False) opened session :=
    evolves_perform_passive trivial opened
  exact ⟨opened, session, rfl, hrun, rfl, rfl⟩

end Structural

end Store

end ValidatedStore
