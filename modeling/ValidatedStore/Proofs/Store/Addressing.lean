import ValidatedStore.Proofs.Store.Failing

/-!
# Declared paths are addressable

Types and values are walked by different functions, which are stopped by different things. Yet in a
value that a schema accepts no walk is stopped on the way to a declared path, since a record accepts
neither absence nor anything but objects. A store that holds accepted values therefore never has to
complain about a path: what is not declared is rejected as invalid, and what is declared can be
written with everything that is acceptable there.
-/

namespace ValidatedStore

namespace Store

/-- A rejection does not complain about a path. -/
theorem reject_ne_invalidPath {μ : Type} (store : Store) (callbacks : Callbacks μ)
    (paths : List KeyPath) (session : Session μ) (path : KeyPath) (fault : PathFault) :
    (store.reject callbacks paths session).1 ≠ .error (.invalidPath path fault) := by
  unfold reject
  split
  next =>
    intro h
    cases Except.error.inj h
  next =>
    intro h
    cases h

variable {μ : Type} [Medium μ] {store : Store} {schema inner : Schema} {session : Session μ}
  {callbacks : Callbacks μ} {e : StoreError} {value : Value} {path : KeyPath}

section Saving

/-- A save fails only because of the medium, whatever its handlers do. -/
theorem concernsMedium_of_saveNow (h : (store.saveNow callbacks session).1 = .error e) :
    e.concernsMedium = true := by
  rcases saveNow_cases store callbacks session with ⟨hs, _⟩ | ⟨cause, hs⟩ | ⟨current, hs⟩
  · have hkeeps : KeepsOnFailure store.name fun _ : μ => () := fun _ _ _ _ _ => rfl
    have hwrite : store.write session = (.error e, (store.write session).2) :=
      Prod.ext (hs ▸ h) rfl
    exact (obstructed_of_write hkeeps hwrite).concerns
  · rw [hs] at h
    obtain rfl := Except.error.inj h
    rfl
  · rw [hs, reportConflict] at h
    split at h
    next =>
      obtain rfl := Except.error.inj h
      rfl
    next => cases h

/-- So does a commit. -/
theorem concernsMedium_of_commit (h : (store.commit callbacks value session).1 = .error e) :
    e.concernsMedium = true := by
  have hcommit : store.commit callbacks value session =
      (.error e, (store.commit callbacks value session).2) := Prod.ext h rfl
  rw [commit_eq] at hcommit
  have hrequest := Outcome.succeeding_eq_error_iff.mp hcommit
  rw [requestSave_eq] at hrequest
  split at hrequest
  next => cases (Prod.mk.inj hrequest).1
  next =>
    have hsave := Outcome.succeeding_eq_error_iff.mp hrequest
    exact concernsMedium_of_saveNow (Prod.mk.inj hsave).1

/-- So it does not complain about a path either. -/
theorem commit_ne_invalidPath (fault : PathFault) :
    (store.commit callbacks value session).1 ≠ .error (.invalidPath path fault) :=
  fun h => Bool.false_ne_true (concernsMedium_of_commit h)

end Saving

namespace Guarded

variable {patch : Option Value → Value}

/-- Nothing is patched at a path that is not declared. -/
theorem patched_of_undeclared (hg : store.Guarded schema) (hd : schema.declares path = false) :
    store.patched path patch value = .error (.invalid [path]) := by
  rw [Schema.declares] at hd
  cases hi : schema.declared path with
  | error fault =>
    have hnone : store.partFailures? path = none := by
      rw [partFailures?, hg.validator]
      dsimp only
      rw [hi]
    rw [patched, hnone]
  | ok inner =>
    rw [hi] at hd
    cases hd

/-- At a declared path of an accepted value something is found, or its absence, and the patch is
written if it is acceptable there. -/
theorem exists_patched (hg : store.Guarded schema) (ha : schema.accepts (some value) = true)
    (hd : schema.declared path = .ok inner) (patch : Option Value → Value) :
    ∃ current written, value.find path = .ok current ∧
      value.overwrite path (patch current) = .ok written ∧
      store.patched path patch value =
        if inner.accepts (some (patch current)) then .ok written
        else .error (.invalid ((inner.failures (some (patch current))).map (path ++ ·))) := by
  obtain ⟨current, hf, _⟩ := Schema.find_declared ha hd
  obtain ⟨written, ho, _⟩ := Schema.exists_overwrite hg.wellFormed ha hd (patch current)
  have hpart : store.partFailures? path =
      some fun part => (inner.failures (some part)).map (path ++ ·) := by
    rw [partFailures?, hg.validator]
    dsimp only
    rw [hd]
  refine ⟨current, written, hf, ho, ?_⟩
  rw [patched, hpart]
  dsimp only
  rw [hf]
  dsimp only
  cases hv : inner.failures (some (patch current)) with
  | nil => rw [List.map_nil, if_pos (Schema.accepts_iff.mpr hv), ho, Except.mapError]
  | cons first rest =>
    have hno : ¬inner.accepts (some (patch current)) = true := by
      rw [Schema.accepts_iff, hv]
      exact List.cons_ne_nil first rest
    rw [if_neg hno, List.map_cons]

end Guarded

/-- How a store answers an update when its value is accepted. -/
structure AnswersUpdate (store : Store) (schema : Schema) (callbacks : Callbacks μ)
    (selector : Selector) (patch : Option Value → Value) (session : Session μ) : Prop where
  /-- It does not complain about the path. -/
  addressed : ∀ path fault,
    (store.update callbacks selector patch session).1 ≠ .error (.invalidPath path fault)
  /-- A path that is not declared is rejected as invalid. -/
  undeclared : schema.declares (store.resolve selector) = false →
    store.update callbacks selector patch session =
      store.reject callbacks [store.resolve selector] session
  /-- At a declared path the patch is written and committed if it is acceptable there, and otherwise
  the places at which it fails are rejected. -/
  declared : ∀ inner, schema.declared (store.resolve selector) = .ok inner →
    ∃ current written, session.state.value.find (store.resolve selector) = .ok current ∧
      session.state.value.overwrite (store.resolve selector) (patch current) = .ok written ∧
      store.update callbacks selector patch session =
        if inner.accepts (some (patch current)) then store.commit callbacks written session
        else store.reject callbacks
          ((inner.failures (some (patch current))).map (store.resolve selector ++ ·)) session

namespace Guarded

variable {selector : Selector} {patch : Option Value → Value}

/-- An update of an undeclared path is rejected. -/
theorem update_of_undeclared (hg : store.Guarded schema)
    (hd : schema.declares (store.resolve selector) = false) :
    store.update callbacks selector patch session =
      store.reject callbacks [store.resolve selector] session := by
  unfold update
  dsimp only
  rw [hg.patched_of_undeclared hd]

/-- An update of a declared path is committed or rejected by what the patch is worth there. -/
theorem exists_update (hg : store.Guarded schema)
    (ha : schema.accepts (some session.state.value) = true)
    (hd : schema.declared (store.resolve selector) = .ok inner) (patch : Option Value → Value) :
    ∃ current written, session.state.value.find (store.resolve selector) = .ok current ∧
      session.state.value.overwrite (store.resolve selector) (patch current) = .ok written ∧
      store.update callbacks selector patch session =
        if inner.accepts (some (patch current)) then store.commit callbacks written session
        else store.reject callbacks
          ((inner.failures (some (patch current))).map (store.resolve selector ++ ·)) session := by
  obtain ⟨current, written, hf, ho, hpatched⟩ := hg.exists_patched ha hd patch
  refine ⟨current, written, hf, ho, ?_⟩
  unfold update
  dsimp only
  rw [hpatched]
  by_cases hv : inner.accepts (some (patch current)) = true
  · rw [if_pos hv, if_pos hv]
  · rw [if_neg hv, if_neg hv]

/-- So a guarded store with an accepted value answers every update. -/
theorem answersUpdate (hg : store.Guarded schema)
    (ha : schema.accepts (some session.state.value) = true) (selector : Selector)
    (patch : Option Value → Value) :
    store.AnswersUpdate schema callbacks selector patch session where
  addressed path fault := by
    cases hd : schema.declared (store.resolve selector) with
    | error stopped =>
      have hundeclared : schema.declares (store.resolve selector) = false := by
        rw [Schema.declares, hd]
        rfl
      rw [hg.update_of_undeclared hundeclared]
      exact store.reject_ne_invalidPath callbacks _ session path fault
    | ok inner =>
      obtain ⟨current, written, _, _, hupdate⟩ := hg.exists_update ha hd patch
      rw [hupdate]
      split
      next => exact commit_ne_invalidPath fault
      next => exact store.reject_ne_invalidPath callbacks _ session path fault
  undeclared := hg.update_of_undeclared
  declared _ hd := hg.exists_update ha hd patch

end Guarded

/-- In a value that a schema accepts, built or not, no walk is stopped on the way to a declared
path, and what is found there is acceptable, absence included. A store that is opened with a built
schema that has a default, or with a default alone, hence never complains about the path of an
update, whatever was done with it and its medium before: it rejects what is not declared, and
commits at a declared path whatever is acceptable there. -/
theorem declared_addressable :
    (∀ {schema inner : Schema} {value : Value} {path : KeyPath},
      schema.accepts (some value) = true → schema.declared path = .ok inner →
      ∃ found, value.find path = .ok found ∧ inner.accepts found = true) ∧
    ∀ {μ : Type} [Medium μ] {draft : StoreDraft} {store : Store} {medium : μ}
      {opened session : Session μ},
      (∀ schema, draft.schema = some schema → schema.Built ∧ schema.default?.isSome = true) →
      (draft.schema ≠ none ∨ draft.default ≠ none) →
      draft.openOn medium = (.ok store, opened) →
      store.Evolves (fun _ => True) (fun _ _ => True) opened session →
      ∃ schema, store.validator = some schema ∧
        ∀ (callbacks : Callbacks μ) selector,
          (∀ patch, store.AnswersUpdate schema callbacks selector patch session) ∧
          ∀ part path fault,
            (store.set callbacks selector part session).1 ≠ .error (.invalidPath path fault) := by
  refine ⟨Schema.find_declared, ?_⟩
  intro μ _ draft store medium opened session hschema hsome hopen hrun
  obtain ⟨hp, hopened⟩ : draft.prepare = .ok store ∧
      store.Evolves (fun _ => True) (fun _ _ => True) (store.start medium) opened :=
    evolves_of_openOn hopen trivial
  obtain ⟨schema, value, hg, hroot, hd⟩ := exists_guarded hp hschema hsome
  have ha := hg.accepts_evolved hroot hd hopened hrun
  exact ⟨schema, hg.validator, fun callbacks selector => ⟨hg.answersUpdate ha selector,
    fun part => (hg.answersUpdate ha selector fun _ => part).addressed⟩⟩

/-- What a lamp may lack is found missing in a room, and acceptably so. A switch that was turned on
is turned off again by an update, and rejects one of an unknown key. -/
theorem declared_addressable_of_switch :
    (∃ found, (Value.object [("lamp", .object [("on", .bool true)])]).find ["lamp", "broken"] =
      .ok found ∧ (Schema.nullable false true).accepts found = true) ∧
    ∃ (opened session : Session Memory),
      switchDraft.openOn Memory.empty = (.ok switchStore, opened) ∧
      switchStore.Evolves (fun _ => True) (fun _ _ => True) opened session ∧
      session.state.value = .object [("on", .bool true)] ∧
      switchStore.update Callbacks.passive (.text "on") (fun _ => .bool false) session =
        switchStore.commit Callbacks.passive (.object [("on", .bool false)]) session ∧
      switchStore.update Callbacks.passive (.text "off") (fun _ => .null) session =
        switchStore.reject Callbacks.passive [["off"]] session := by
  obtain ⟨hvalues, hstores⟩ := declared_addressable
  let opened := (switchDraft.openOn Memory.empty).2
  have hopen : switchDraft.openOn Memory.empty = (.ok switchStore, opened) := rfl
  let turn := Operation.set (.text "on") (.bool true)
  have hrun := @Evolves.performAll _ _ switchStore (fun _ => True) (fun _ _ => True) _ _
    (.refl opened) trivial trivial [turn] fun _ _ => trivial
  have hschema : ∀ schema, switchDraft.schema = some schema →
      schema.Built ∧ schema.default?.isSome = true := by
    intro schema h
    obtain rfl := Option.some.inj h
    exact ⟨built_switchSchema, rfl⟩
  obtain ⟨schema, hv, hanswers⟩ :=
    hstores hschema (.inl (Option.some_ne_none switchSchema)) hopen hrun
  obtain rfl := Option.some.inj hv
  have haccepted : Schema.roomSchema.accepts
      (some (.object [("lamp", .object [("on", .bool true)])])) = true := by
    decide
  refine ⟨hvalues haccepted rfl, opened, _, hopen, hrun, rfl, ?_, ?_⟩
  · obtain ⟨current, written, _, ho, hupdate⟩ :=
      ((hanswers Callbacks.passive (.text "on")).1 fun _ => .bool false).declared _ rfl
    obtain rfl := Except.ok.inj ho
    exact hupdate
  · exact ((hanswers Callbacks.passive (.text "off")).1 fun _ => .null).undeclared rfl

end Store

end ValidatedStore
