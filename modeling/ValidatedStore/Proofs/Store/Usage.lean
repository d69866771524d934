import ValidatedStore.Proofs.Store.Moves
import ValidatedStore.Store.Handling
import ValidatedStore.Store.Opening

/-!
# The use of a store over time

A store that is in use goes through operations in any order and with any results. Handlers may use
the store that called them, with operations whose handlers do the same in turn; events are read
off at any moment; and others may change the medium. A relation between sessions that is
reflexive and transitive and holds for each of these steps holds for the whole use.
-/

namespace ValidatedStore

namespace Store

variable {μ : Type} [Medium μ]

/-- What can become of a session while the store is used by operations of some kind, and while
others may change the medium in some way. -/
inductive Evolves (store : Store) (may : Operation → Prop) (shifts : μ → μ → Prop) :
    Session μ → Session μ → Prop
  /-- Nothing happens. -/
  | refl (session : Session μ) : Evolves store may shifts session session
  /-- Events are noted or read off. -/
  | events {start session : Session μ} (h : Evolves store may shifts start session)
      (events : List Event) : Evolves store may shifts start { session with events := events }
  /-- Others change the medium. -/
  | outside {start session : Session μ} (h : Evolves store may shifts start session) {medium : μ}
      (hm : shifts session.medium medium) :
      Evolves store may shifts start { session with medium := medium }
  /-- An operation is carried out, and its handlers use the store in the same way. -/
  | perform {start session : Session μ} (h : Evolves store may shifts start session)
      {callbacks : Callbacks μ}
      (hinvalid : ∀ session, Evolves store may shifts session (callbacks.afterInvalid session))
      (hconflict : ∀ session, Evolves store may shifts session (callbacks.afterConflict session))
      {operation : Operation} (ho : may operation) :
      Evolves store may shifts start (store.perform callbacks operation session).2

/-- Handlers that do nothing but use the store in some way. -/
structure Uses (store : Store) (may : Operation → Prop) (shifts : μ → μ → Prop)
    (callbacks : Callbacks μ) : Prop where
  /-- The handler of invalid values. -/
  afterInvalid : ∀ session, store.Evolves may shifts session (callbacks.afterInvalid session)
  /-- The handler of conflicts. -/
  afterConflict : ∀ session, store.Evolves may shifts session (callbacks.afterConflict session)

variable {store : Store} {may : Operation → Prop} {shifts : μ → μ → Prop}

theorem uses_passive : store.Uses may shifts Callbacks.passive :=
  ⟨fun session => .refl session, fun session => .refl session⟩

/-- One operation whose handlers only take note. -/
theorem evolves_perform_passive {operation : Operation} (ho : may operation)
    (session : Session μ) :
    store.Evolves may shifts session (store.perform Callbacks.passive operation session).2 :=
  (Evolves.refl session).perform uses_passive.afterInvalid uses_passive.afterConflict ho

/-- The handlers that a store can be given use it by a reset of the whole value and by loads. -/
theorem uses_callbacks (hreset : may (.reset (.text ""))) (hload : may .load) :
    store.Uses may shifts (store.callbacks : Callbacks μ) where
  afterInvalid session := by
    cases hi : store.onInvalid with
    | none =>
      simp only [callbacks, hi]
      exact .refl session
    | some handler =>
      cases handler with
      | observe =>
        simp only [callbacks, hi]
        exact .refl session
      | resetAll =>
        simp only [callbacks, hi]
        exact (evolves_perform_passive hreset session).events _
  afterConflict session := by
    cases hc : store.onConflict with
    | none =>
      simp only [callbacks, hc]
      exact .refl session
    | some handler =>
      cases handler with
      | observe =>
        simp only [callbacks, hc]
        exact .refl session
      | reload =>
        simp only [callbacks, hc]
        exact (evolves_perform_passive hload session).events _

/-- A reflexive and transitive relation holds along every use of a store if it holds for each
operation whose handlers respect it, for changes of the events, and for changes by others. -/
theorem Evolves.related {R : Session μ → Session μ → Prop} (hrefl : ∀ session, R session session)
    (htrans : ∀ {first second third}, R first second → R second third → R first third)
    (hevents : ∀ session events, R session { session with events := events })
    (houtside : ∀ session medium, shifts session.medium medium →
      R session { session with medium := medium })
    (hperform : ∀ (callbacks : Callbacks μ) operation session,
      (∀ session, R session (callbacks.afterInvalid session)) →
      (∀ session, R session (callbacks.afterConflict session)) → may operation →
      R session (store.perform callbacks operation session).2)
    {before after : Session μ} (h : store.Evolves may shifts before after) : R before after := by
  induction h with
  | refl session => exact hrefl session
  | events _ events ih => exact htrans ih (hevents _ events)
  | outside _ hm ih => exact htrans ih (houtside _ _ hm)
  | perform _ _ _ ho ih ihInvalid ihConflict =>
    exact htrans ih (hperform _ _ _ ihInvalid ihConflict ho)

/-- A property of states that every move and every handler keeps is kept along a trail. -/
theorem Trail.preserved {P : State → Prop} {callbacks : Callbacks μ} {operation : Operation}
    {origin : μ} {before after : Session μ}
    (hmove : ∀ {before after : Session μ}, store.Move operation origin before after →
      P before.state → P after.state)
    (hinvalid : ∀ session, P session.state → P (callbacks.afterInvalid session).state)
    (hconflict : ∀ session, P session.state → P (callbacks.afterConflict session).state)
    (h : store.Trail callbacks operation origin before after) (hp : P before.state) :
    P after.state := by
  induction h with
  | refl => exact hp
  | tail _ hstride ih =>
    rcases hstride with hm | rfl | rfl
    · exact hmove hm ih
    · exact hinvalid _ ih
    · exact hconflict _ ih

/-- A property of states that every move keeps is kept along every use of a store. -/
theorem Evolves.preserved {P : State → Prop}
    (hmove : ∀ {operation origin} {before after : Session μ}, may operation →
      store.Move operation origin before after → P before.state → P after.state)
    {before after : Session μ} (h : store.Evolves may shifts before after)
    (hp : P before.state) : P after.state := by
  refine h.related (R := fun before after => P before.state → P after.state) ?_ ?_ ?_ ?_ ?_ hp
  · exact fun _ hp => hp
  · exact fun h₁ h₂ hp => h₂ (h₁ hp)
  · exact fun _ _ hp => hp
  · exact fun _ _ _ hp => hp
  · intro callbacks operation session hinvalid hconflict ho hp
    exact (trail_perform operation).preserved (hmove ho) hinvalid hconflict hp

/-- A history of operations with the store's own handlers is a use of the store. -/
theorem Evolves.performAll {start session : Session μ}
    (h : store.Evolves may shifts start session) (hreset : may (.reset (.text "")))
    (hload : may .load) {operations : List Operation}
    (hmay : ∀ operation ∈ operations, may operation) :
    store.Evolves may shifts start (store.performAll store.callbacks operations session) := by
  induction operations generalizing session with
  | nil => exact h
  | cons operation rest ih =>
    have huses : store.Uses may shifts (store.callbacks : Callbacks μ) :=
      uses_callbacks hreset hload
    have hfirst := h.perform huses.afterInvalid huses.afterConflict
      (hmay operation List.mem_cons_self)
    exact ih hfirst fun other hm => hmay other (List.mem_cons_of_mem _ hm)

/-- A sound draft gives its store, after a first load unless that is left out. -/
theorem openOn_of_prepare {draft : StoreDraft} (h : draft.prepare = .ok store) (medium : μ) :
    draft.openOn medium =
      if store.settings.lazyLoad then (.ok store, store.start medium)
      else ((store.load Callbacks.passive (store.start medium)).1.map fun _ => store,
        (store.load Callbacks.passive (store.start medium)).2) := by
  unfold StoreDraft.openOn
  rw [h]
  dsimp only
  split
  next => rfl
  next =>
    split
    next heq => rw [heq]; rfl
    next heq => rw [heq]; rfl

/-- Opening a store is a use of it: its first load, or nothing at all. -/
theorem evolves_openOn {draft : StoreDraft} (medium : μ) (hp : draft.prepare = .ok store)
    (hload : may .load) :
    store.Evolves may shifts (store.start medium) (draft.openOn medium).2 := by
  rw [openOn_of_prepare hp]
  split
  next => exact .refl _
  next =>
    have hl : store.Evolves may shifts (store.start medium)
        (store.perform Callbacks.passive .load (store.start medium)).2 :=
      evolves_perform_passive hload _
    exact hl

/-- A prepared store keeps the draft's parts and takes the validator that the draft has. -/
theorem prepare_eq_ok {draft : StoreDraft} (h : draft.prepare = .ok store) :
    draft.validator = .ok store.validator ∧
      store = ⟨draft.name, draft.schema, draft.effectiveDefault, store.validator, draft.settings,
        draft.onInvalid, draft.onConflict⟩ := by
  unfold StoreDraft.prepare at h
  split at h
  next => cases h
  next =>
    split at h
    next => cases h
    next validator hv =>
      obtain rfl := Except.ok.inj h
      exact ⟨hv, rfl⟩

/-- Other settings that are as sound, and other handlers, are the store's as they are the
draft's. -/
theorem prepare_with {draft : StoreDraft} (h : draft.prepare = .ok store) (settings : Settings)
    (onInvalid : Option InvalidHandler) (onConflict : Option ConflictHandler)
    (hs : settings.validate = draft.settings.validate) :
    { draft with settings, onInvalid, onConflict }.prepare =
      .ok { store with settings, onInvalid, onConflict } := by
  obtain ⟨hvalidator, he⟩ := prepare_eq_ok h
  unfold StoreDraft.prepare at h ⊢
  have hkept : { draft with settings, onInvalid, onConflict }.validator = draft.validator := rfl
  dsimp only at hs ⊢
  rw [hkept, hs, hvalidator]
  split at h
  next => cases h
  next =>
    dsimp only
    rw [he]
    rfl

/-- The store that opening gives is the one that was prepared. -/
theorem prepare_of_openOn {draft : StoreDraft} {medium : μ} {session : Session μ}
    (h : draft.openOn medium = (.ok store, session)) : draft.prepare = .ok store := by
  unfold StoreDraft.openOn at h
  split at h
  next => cases h
  next prepared hp =>
    dsimp only at h
    split at h
    next => exact (Prod.mk.inj h).1 ▸ hp
    next =>
      split at h
      next => exact (Prod.mk.inj h).1 ▸ hp
      next => cases h

/-- A store that is opened eagerly is in the session that its first load left. -/
theorem session_of_openOn {draft : StoreDraft} {medium : μ} {opened : Session μ}
    (hopen : draft.openOn medium = (.ok store, opened))
    (heager : draft.settings.lazyLoad = false) :
    opened = (store.load Callbacks.passive (store.start medium)).2 := by
  have hp := prepare_of_openOn hopen
  have hlazy : ¬store.settings.lazyLoad = true := by
    rw [(prepare_eq_ok hp).2, heager]
    exact Bool.false_ne_true
  rw [openOn_of_prepare hp, if_neg hlazy] at hopen
  exact (Prod.mk.inj hopen).2.symm

/-- An opened store has been used since its start. -/
theorem evolves_of_openOn {draft : StoreDraft} {medium : μ} {session : Session μ}
    (h : draft.openOn medium = (.ok store, session)) (hload : may .load) :
    draft.prepare = .ok store ∧ store.Evolves may shifts (store.start medium) session := by
  have hp := prepare_of_openOn h
  have hopen : store.Evolves may shifts (store.start medium) (draft.openOn medium).2 :=
    evolves_openOn medium hp hload
  rw [h] at hopen
  exact ⟨hp, hopen⟩

end Store

end ValidatedStore
