import ValidatedStore.Proofs.Store.Coherence

/-!
# Handlers that only take note

Two stores of one draft, one with handlers that only take note and one without handlers, go through
the same operations on two media that do the same. They stay in the same state. Where the one
without handlers fails because of invalid values or a conflict, the other one tells its handler the
same and goes on; otherwise the two have the same result. The operations decide alike, and they turn
to the medium alike, so that each of these has to be compared once.
-/

namespace ValidatedStore

open LawfulMedium (content)

/-- The draft without handlers. -/
def StoreDraft.unobserved (draft : StoreDraft) : StoreDraft :=
  { draft with onInvalid := none, onConflict := none }

/-- Whether an operation succeeds although it has found a conflict, when a handler was told of it: a
change and a load have done their work in memory by then, and a save has not. -/
def Operation.outlastsConflict : Operation → Bool
  | .load => true
  | .loadFrom _ => true
  | .update _ _ => true
  | .reset _ => true
  | .save => false
  | .flush => false
  | .fire => false

/-- How the result of an operation that tells handlers these events compares to the result of the
same operation without handlers. -/
inductive Told (outlasts : Bool) :
    Except StoreError Bool → Except StoreError Bool → List Event → Prop
  /-- The results are the same, and no conflict is told. -/
  | same {result : Except StoreError Bool} {events : List Event}
      (hinvalid : ∀ paths, result ≠ .error (.invalidValue paths))
      (hconflict : ∀ current baseline, result ≠ .error (.conflict current baseline))
      (he : ∀ event ∈ events, ∃ paths, event = .invalid paths)
      (hfalse : result = .ok false → events = []) : Told outlasts result result events
  /-- Invalid values are told instead of an error. -/
  | invalid (paths : List KeyPath) :
      Told outlasts (.ok false) (.error (.invalidValue paths)) [.invalid paths]
  /-- A conflict is told instead of an error, perhaps after values that were repaired. -/
  | conflict {reports : List Event} (current baseline : Option String)
      (he : ∀ event ∈ reports, ∃ paths, event = .invalid paths) :
      Told outlasts (.ok outlasts) (.error (.conflict current baseline))
        (reports ++ [.conflict current baseline])

namespace Told

variable {outlasts : Bool} {handled plain : Except StoreError Bool} {events : List Event}

theorem invalid_iff (h : Told outlasts handled plain events) (paths : List KeyPath) :
    plain = .error (.invalidValue paths) ↔ handled = .ok false ∧ events = [.invalid paths] := by
  cases h with
  | same hinvalid _ _ hfalse =>
    refine iff_of_false (hinvalid paths) fun ⟨hresult, he⟩ => ?_
    rw [hfalse hresult] at he
    cases he
  | invalid other => simp
  | conflict current baseline he =>
    refine iff_of_false nofun fun ⟨_, he⟩ => ?_
    have hmem : Event.conflict current baseline ∈ [Event.invalid paths] :=
      he ▸ List.mem_append_right _ (List.mem_singleton_self _)
    cases List.mem_singleton.mp hmem

theorem conflict_iff (h : Told outlasts handled plain events) (current baseline : Option String) :
    plain = .error (.conflict current baseline) ↔
      handled = .ok outlasts ∧
        events.filter Event.isConflict = [.conflict current baseline] := by
  cases h with
  | same _ hconflict he _ =>
    refine iff_of_false (hconflict current baseline) fun ⟨_, hfilter⟩ => ?_
    rw [filter_isConflict_of_invalid he] at hfilter
    cases hfilter
  | invalid paths => exact iff_of_false nofun nofun
  | conflict other seen he =>
    have hfound : [Event.conflict other seen].filter Event.isConflict =
        [.conflict other seen] := rfl
    rw [List.filter_append, filter_isConflict_of_invalid he, hfound]
    simp

theorem eq_of_ne (h : Told outlasts handled plain events)
    (hinvalid : ∀ paths, plain ≠ .error (.invalidValue paths))
    (hconflict : ∀ current baseline, plain ≠ .error (.conflict current baseline)) :
    handled = plain := by
  cases h with
  | same => rfl
  | invalid paths => exact absurd rfl (hinvalid paths)
  | conflict current baseline => exact absurd rfl (hconflict current baseline)

end Told

/-- Two media do the same under a key from related states on. -/
structure Mirrored {μ ν : Type} [Medium μ] [Medium ν] (key : String) (R : μ → ν → Prop) : Prop where
  /-- They are read with the same result. -/
  read : ∀ {medium : μ} {bare : ν}, R medium bare → Medium.read medium key = Medium.read bare key
  /-- They are written with the same result, and stay related. -/
  write : ∀ {medium : μ} {bare : ν} (text : String), R medium bare →
    (Medium.write medium key text).1 = (Medium.write bare key text).1 ∧
      R (Medium.write medium key text).2 (Medium.write bare key text).2

section Media

variable {μ ν : Type} [Medium μ] [Medium ν] [LawfulMedium μ] [LawfulMedium ν] {key : String}
  {works : μ → Prop} {bareWorks : ν → Prop}

/-- Two media work, and they hold the same under a key. -/
def HoldAlike (key : String) (works : μ → Prop) (bareWorks : ν → Prop) (medium : μ) (bare : ν) :
    Prop :=
  works medium ∧ bareWorks bare ∧ content medium key = content bare key

/-- Media that do not fail do the same as long as they hold the same. -/
theorem mirrored_of_reliable (h : Reliable key works) (hbare : Reliable key bareWorks) :
    Mirrored key (HoldAlike key works bareWorks) where
  read := fun ⟨hw, hb, hc⟩ => by rw [h.read hw, hbare.read hb, hc]
  write text := fun ⟨hw, hb, _⟩ => by
    obtain ⟨after, hwrite, hw'⟩ := h.write text hw
    obtain ⟨bareAfter, hbareWrite, hb'⟩ := hbare.write text hb
    rw [hwrite, hbareWrite]
    refine ⟨rfl, hw', hb', ?_⟩
    rw [LawfulMedium.content_of_write hwrite, LawfulMedium.content_of_write hbareWrite]

end Media

/-- What becomes of a decision without handlers. -/
inductive Decision.Muted : Decision → Decision → Prop
  /-- Nothing was to be told. -/
  | decline {result : Except StoreError Bool} {events : List Event}
      (hinvalid : ∀ paths, result ≠ .error (.invalidValue paths))
      (hr : Declines result) (he : ∀ event ∈ events, ∃ paths, event = .invalid paths)
      (hfalse : result = .ok false → events = []) :
      Muted (.decline result events) (.decline result [])
  /-- What was to be told is an error. -/
  | invalid (paths : List KeyPath) :
      Muted (.decline (.ok false) [.invalid paths]) (.decline (.error (.invalidValue paths)) [])
  /-- A change is the same. -/
  | change (value : Value) : Muted (.change value) (.change value)
  /-- A repair is not told. -/
  | take {value : Value} {source : Option String} {repaired : Bool} {events : List Event}
      (he : ∀ event ∈ events, ∃ paths, event = .invalid paths) :
      Muted (.take value source repaired events) (.take value source repaired [])

namespace Store

/-- The store without handlers. -/
def unobserved (store : Store) : Store := { store with onInvalid := none, onConflict := none }

theorem prepare_unobserved {draft : StoreDraft} {store : Store} (h : draft.prepare = .ok store) :
    draft.unobserved.prepare = .ok store.unobserved := by
  obtain ⟨_, he⟩ := prepare_eq_ok h
  have hprepare := prepare_with h draft.settings none none rfl
  rw [StoreDraft.unobserved, hprepare, unobserved, he]

section Deciding

variable {store : Store} (hinvalid : store.onInvalid = some .observe)
include hinvalid

theorem muted_rejection (paths : List KeyPath) :
    (store.rejection paths).Muted (store.unobserved.rejection paths) := by
  rw [rejection, hinvalid]
  exact .invalid paths

theorem muted_decideUpdate (selector : Selector) (patch : Option Value → Value) (value : Value) :
    (store.decideUpdate selector patch value).Muted
      (store.unobserved.decideUpdate selector patch value) := by
  unfold decideUpdate
  have hpatched : store.unobserved.patched = store.patched := rfl
  have hresolve : store.unobserved.resolve = store.resolve := rfl
  rw [hpatched, hresolve]
  split
  next => exact muted_rejection hinvalid _
  next => exact .decline nofun rfl nofun nofun
  next => exact .change _

theorem muted_decideLoad (source : Option String) :
    (store.decideLoad source).Muted (store.unobserved.decideLoad source) := by
  cases source with
  | none =>
    rw [decideLoad, decideLoad]
    have hdefault : store.unobserved.default = store.default := rfl
    rw [hdefault]
    split
    next => exact .decline (by simp) rfl (by simp) fun _ => rfl
    next => exact .take (by simp)
  | some text =>
    rw [decideLoad, decideLoad]
    have hexamine : store.unobserved.examine text = store.examine text := rfl
    have htemplate : store.unobserved.repairTemplate? = store.repairTemplate? := rfl
    rw [hexamine, htemplate]
    split
    next => exact .take (by simp)
    next =>
      split
      next => exact muted_rejection hinvalid _
      next =>
        have htold := invalid_of_mem_reports store
        split
        next => exact .decline (by simp) rfl (htold _) (by simp)
        next => exact .take (htold _)

end Deciding

theorem muted_decideReset (store : Store) (selector : Selector) (value : Value) :
    (store.decideReset selector value).Muted (store.unobserved.decideReset selector value) := by
  unfold decideReset
  have hresolve : store.unobserved.resolve = store.resolve := rfl
  have hdefault : store.unobserved.defaultAt = store.defaultAt := rfl
  have hfailures : store.unobserved.failures = store.failures := rfl
  rw [hresolve, hdefault, hfailures]
  split
  next =>
    split
    next => exact .decline nofun rfl nofun nofun
    next =>
      split
      next => exact .change _
      next => exact .decline nofun rfl nofun fun _ => rfl
  next => exact .decline nofun rfl nofun fun _ => rfl

variable {μ ν : Type}

/-- A session with handlers and one without are in the same state, on media that are related. -/
structure Twin (R : μ → ν → Prop) (session : Session μ) (bare : Session ν) : Prop where
  /-- The states are the same. -/
  state : session.state = bare.state
  /-- The media are related. -/
  medium : R session.medium bare.medium

/-- How two saves compare, of which one tells a handler of conflicts: the results of both when they
have saved, and of that one when it has told of a conflict. -/
inductive SavedTwins {α : Type} (R : μ → ν → Prop) (done told : α) (events : List Event) :
    Outcome μ α → Outcome ν α → Prop
  /-- Both have saved, or put the save off. -/
  | saved {after : Session μ} {bareAfter : Session ν} (ht : Twin R after bareAfter)
      (he : after.events = events) :
      SavedTwins R done told events (.ok done, after) (.ok done, bareAfter)
  /-- The media have failed. -/
  | failed {cause : StorageError} {after : Session μ} {bareAfter : Session ν}
      (ht : Twin R after bareAfter) (he : after.events = events) :
      SavedTwins R done told events (.error (.storage cause), after)
        (.error (.storage cause), bareAfter)
  /-- The media hold something unseen. -/
  | conflict {after : Session μ} {bareAfter : Session ν} (current baseline : Option String)
      (ht : Twin R after bareAfter) (he : after.events = events ++ [.conflict current baseline]) :
      SavedTwins R done told events (.ok told, after)
        (.error (.conflict current baseline), bareAfter)

/-- What succeeds with another value, also after a conflict was told, compares in the same way. -/
theorem SavedTwins.succeeding {α β : Type} {R : μ → ν → Prop} {done told : α} {events : List Event}
    {outcome : Outcome μ α} {bareOutcome : Outcome ν α}
    (h : SavedTwins R done told events outcome bareOutcome) (value : β) :
    SavedTwins R value value events (Outcome.succeeding value outcome)
      (Outcome.succeeding value bareOutcome) := by
  cases h with
  | saved ht he => exact .saved ht he
  | failed ht he => exact .failed ht he
  | conflict current baseline ht he => exact .conflict current baseline ht he

/-- How an operation of a store with handlers that only take note compares to the same operation of
the store without handlers. -/
structure Compares (R : μ → ν → Prop) (outlasts : Bool) (before : Session μ)
    (outcome : Outcome μ Bool) (bareOutcome : Outcome ν Bool) : Prop where
  /-- They leave the same state, and related media. -/
  twin : Twin R outcome.2 bareOutcome.2
  /-- What the handlers are told accounts for the results. -/
  told : ∃ events, outcome.2.events = before.events ++ events ∧
    Told outlasts outcome.1 bareOutcome.1 events

/-- A save in an operation that would succeed, after reports of repaired values. -/
theorem SavedTwins.compares {R : μ → ν → Prop} {outlasts : Bool} {before : Session μ}
    {reports : List Event} {outcome : Outcome μ Bool} {bareOutcome : Outcome ν Bool}
    (h : SavedTwins R true outlasts (before.events ++ reports) outcome bareOutcome)
    (he : ∀ event ∈ reports, ∃ paths, event = .invalid paths) :
    Compares R outlasts before outcome bareOutcome := by
  cases h with
  | saved ht hevents => exact ⟨ht, reports, hevents, .same nofun nofun he nofun⟩
  | failed ht hevents => exact ⟨ht, reports, hevents, .same nofun nofun he nofun⟩
  | conflict current baseline ht hevents =>
    exact ⟨ht, _, hevents.trans (List.append_assoc _ _ _), .conflict current baseline he⟩

/-- A save in an operation that would succeed, without reports. -/
theorem SavedTwins.compares_nil {R : μ → ν → Prop} {outlasts : Bool} {before : Session μ}
    {outcome : Outcome μ Bool} {bareOutcome : Outcome ν Bool}
    (h : SavedTwins R true outlasts before.events outcome bareOutcome) :
    Compares R outlasts before outcome bareOutcome := by
  have hnone : SavedTwins R true outlasts (before.events ++ []) outcome bareOutcome := by
    rw [List.append_nil]
    exact h
  exact hnone.compares nofun

variable [Medium μ] [Medium ν] {store : Store} {R : μ → ν → Prop} {session : Session μ}
  {bare : Session ν}

section Comparing

variable (hmirrored : Mirrored store.name R) (hconflict : store.onConflict = some .observe)
include hmirrored

/-- Twins write alike. -/
theorem Twin.write (h : Twin R session bare) (told : Bool) :
    SavedTwins R true told session.events (store.write session) (store.unobserved.write bare) := by
  have hname : store.unobserved.name = store.name := rfl
  obtain ⟨hresult, hafter⟩ := hmirrored.write (Json.print bare.state.value) h.medium
  unfold Store.write
  dsimp only
  rw [hname, h.state]
  cases hwrite : Medium.write session.medium store.name (Json.print bare.state.value) with
  | mk result medium =>
    cases hbare : Medium.write bare.medium store.name (Json.print bare.state.value) with
    | mk bareResult bareMedium =>
      rw [hwrite, hbare] at hresult hafter
      dsimp only at hresult hafter
      subst hresult
      cases result with
      | error cause => exact .failed ⟨rfl, hafter⟩ rfl
      | ok _ => exact .saved ⟨rfl, hafter⟩ rfl

include hconflict

/-- Twins save alike. -/
theorem Twin.saveNow (h : Twin R session bare) :
    SavedTwins R true false session.events (store.saveNow Callbacks.passive session)
      (store.unobserved.saveNow Callbacks.passive bare) := by
  have hname : store.unobserved.name = store.name := rfl
  have hsettings : store.unobserved.settings = store.settings := rfl
  have hwrite := h.write hmirrored false
  unfold Store.saveNow
  rw [hname, hsettings, hmirrored.read h.medium, h.state]
  split
  next =>
    split
    next => exact .failed h rfl
    next current _ =>
      split
      next => exact hwrite
      next =>
        have hreport : store.reportConflict Callbacks.passive current session =
            (.ok false, session.note (.conflict current session.state.baseline)) := by
          rw [reportConflict, hconflict]
          rfl
        rw [hreport, h.state]
        exact .conflict current bare.state.baseline ⟨h.state, h.medium⟩ rfl
  next => exact hwrite

theorem Twin.requestSave (h : Twin R session bare) :
    SavedTwins R () () session.events (store.requestSave Callbacks.passive session)
      (store.unobserved.requestSave Callbacks.passive bare) := by
  have hsettings : store.unobserved.settings = store.settings := rfl
  rw [requestSave_eq, requestSave_eq, hsettings]
  split
  next => exact .saved ⟨by rw [withPending, withPending, h.state], h.medium⟩ rfl
  next => exact (h.saveNow hmirrored hconflict).succeeding ()

theorem Twin.commit (h : Twin R session bare) (value : Value) :
    SavedTwins R true true session.events (store.commit Callbacks.passive value session)
      (store.unobserved.commit Callbacks.passive value bare) := by
  have hchanged : Twin R { session with state := { session.state with value := value } }
      { bare with state := { bare.state with value := value } } := ⟨by rw [h.state], h.medium⟩
  rw [commit_eq, commit_eq]
  exact (hchanged.requestSave hmirrored hconflict).succeeding true

theorem Twin.commitLoad (h : Twin R session bare) (value : Value) (source : Option String)
    (repaired : Bool) :
    SavedTwins R true true session.events
      (store.commitLoad Callbacks.passive value source repaired session)
      (store.unobserved.commitLoad Callbacks.passive value source repaired bare) := by
  have htaken : Twin R (taken value source session) (taken value source bare) :=
    ⟨by rw [taken, taken, h.state], h.medium⟩
  rw [commitLoad_eq, commitLoad_eq]
  split
  next => exact (htaken.requestSave hmirrored hconflict).succeeding true
  next => exact .saved htaken rfl

/-- Twins carry corresponding decisions out alike. -/
theorem Twin.carryOut (h : Twin R session bare) {decision muted : Decision}
    (hm : decision.Muted muted) :
    Compares R true session (store.carryOut decision session)
      (store.unobserved.carryOut muted bare) := by
  have hnoted (events : List Event) : Twin R (session.noteAll events) bare := ⟨h.state, h.medium⟩
  cases hm with
  | @decline result events hinvalid hr he hfalse =>
    rw [carryOut_decline_nil]
    refine ⟨hnoted events, events, rfl, .same hinvalid (fun current baseline hc => ?_) he hfalse⟩
    subst hc
    cases hr
  | invalid paths =>
    rw [carryOut_decline_nil]
    exact ⟨hnoted _, _, rfl, .invalid paths⟩
  | change value => exact (h.commit hmirrored hconflict value).compares_nil
  | @take value source repaired events he =>
    rw [carryOut_take_nil]
    exact ((hnoted events).commitLoad hmirrored hconflict value source repaired).compares he

theorem Twin.save (h : Twin R session bare) :
    Compares R false session (store.save Callbacks.passive session)
      (store.unobserved.save Callbacks.passive bare) := by
  have hpending : Twin R (withPending false session) (withPending false bare) :=
    ⟨by rw [withPending, withPending, h.state], h.medium⟩
  have hsaved : SavedTwins R true false session.events
      (store.save Callbacks.passive session) (store.unobserved.save Callbacks.passive bare) :=
    hpending.saveNow hmirrored hconflict
  exact hsaved.compares_nil

theorem Twin.flush (h : Twin R session bare) :
    Compares R false session (store.flush Callbacks.passive session)
      (store.unobserved.flush Callbacks.passive bare) := by
  have hnothing : Compares R false session (.ok false, session) (.ok false, bare) :=
    ⟨h, [], (List.append_nil _).symm, .same nofun nofun nofun fun _ => rfl⟩
  unfold Store.flush
  rw [h.state]
  split
  next => exact h.save hmirrored hconflict
  next => exact hnothing

/-- Twins do every operation alike. -/
theorem Twin.perform (hinvalid : store.onInvalid = some .observe) (h : Twin R session bare)
    {operation : Operation} (ho : operation ≠ .fire) :
    Compares R operation.outlastsConflict session
      (store.perform Callbacks.passive operation session)
      (store.unobserved.perform Callbacks.passive operation bare) := by
  have hload (source : Option String) : Compares R true session
      (store.loadFrom Callbacks.passive source session)
      (store.unobserved.loadFrom Callbacks.passive source bare) := by
    rw [loadFrom_eq_carryOut, loadFrom_eq_carryOut]
    exact h.carryOut hmirrored hconflict (muted_decideLoad hinvalid source)
  cases operation with
  | load =>
    have hname : store.unobserved.name = store.name := rfl
    rw [Store.perform, Store.perform, load, load, hname, hmirrored.read h.medium]
    split
    next => exact ⟨h, [], (List.append_nil _).symm, .same (by simp) (by simp) (by simp) (by simp)⟩
    next source _ => exact hload source
  | loadFrom source => exact hload source
  | update selector patch =>
    rw [Store.perform, Store.perform, update_eq_carryOut, update_eq_carryOut, h.state]
    exact h.carryOut hmirrored hconflict (muted_decideUpdate hinvalid selector patch _)
  | reset selector =>
    rw [Store.perform, Store.perform, reset_eq_carryOut, reset_eq_carryOut, h.state]
    exact h.carryOut hmirrored hconflict (muted_decideReset store selector _)
  | save => exact h.save hmirrored hconflict
  | flush => exact h.flush hmirrored hconflict
  | fire => exact absurd rfl ho

/-- Twins stay twins. -/
theorem Twin.perform_twin (hinvalid : store.onInvalid = some .observe) (h : Twin R session bare)
    (operation : Operation) :
    Twin R (store.perform Callbacks.passive operation session).2
      (store.unobserved.perform Callbacks.passive operation bare).2 := by
  by_cases ho : operation = .fire
  · subst ho
    exact (h.flush hmirrored hconflict).twin
  · exact (h.perform hmirrored hconflict hinvalid ho).twin

end Comparing

/-- Handlers that only take note do nothing else. -/
theorem callbacks_eq_passive (hinvalid : store.onInvalid ≠ some .resetAll)
    (hconflict : store.onConflict ≠ some .reload) :
    (store.callbacks : Callbacks μ) = Callbacks.passive := by
  unfold Store.callbacks Callbacks.passive
  congr 1
  · split
    next he => exact absurd he hinvalid
    next => rfl
  · split
    next he => exact absurd he hconflict
    next => rfl

/-- A step of a store and of the same store without handlers: both do the same, or others change
both media, which are related afterwards. -/
inductive TwinStep (store : Store) (R : μ → ν → Prop) :
    Session μ × Session ν → Session μ × Session ν → Prop
  /-- Both do the same. -/
  | perform {session : Session μ} {bare : Session ν} (operation : Operation) :
      TwinStep store R (session, bare)
        ((store.perform store.callbacks operation session).2,
          (store.unobserved.perform store.unobserved.callbacks operation bare).2)
  /-- Others change the media. -/
  | outside {session : Session μ} {bare : Session ν} {medium : μ} {bareMedium : ν}
      (hr : R medium bareMedium) :
      TwinStep store R (session, bare)
        ({ session with medium := medium }, { bare with medium := bareMedium })

/-- Twins stay twins in every run. -/
theorem twin_of_twinSteps (hmirrored : Mirrored store.name R)
    (hinvalid : store.onInvalid = some .observe) (hconflict : store.onConflict = some .observe)
    {first last : Session μ × Session ν} (h : Relation.ReflTransGen (store.TwinStep R) first last)
    (hfirst : Twin R first.1 first.2) : Twin R last.1 last.2 := by
  have hpassive : (store.callbacks : Callbacks μ) = Callbacks.passive :=
    callbacks_eq_passive (by rw [hinvalid]; decide) (by rw [hconflict]; decide)
  induction h with
  | refl => exact hfirst
  | tail _ hstep ih =>
    cases hstep with
    | perform operation =>
      rw [hpassive]
      exact ih.perform_twin hmirrored hconflict hinvalid operation
    | outside hr => exact ⟨ih.state, hr⟩

/-- Two stores of one draft are opened without a load on two media that do the same, one with
handlers that only take note and one without handlers. Whatever both do, and whatever others do to
both media, they are in the same state, and their media have the same under their key. The next
operation fails without handlers because of invalid values exactly if the other store tells these,
and nothing else, and has the result false. It fails because of a conflict exactly if the other
store tells of this conflict, and of no other, and succeeds, with the result false if it is a save.
In all other cases the two results are the same. -/
theorem handlers_only_take_note {draft : StoreDraft} {medium : μ} {bareMedium : ν}
    {opened : Session μ} (hlazy : draft.settings.lazyLoad = true)
    (hinvalid : draft.onInvalid = some .observe) (hconflict : draft.onConflict = some .observe)
    (hmirrored : Mirrored draft.name R) (hmedia : R medium bareMedium)
    (hopen : draft.openOn medium = (.ok store, opened)) :
    ∃ bareOpened, draft.unobserved.openOn bareMedium = (.ok store.unobserved, bareOpened) ∧
      ∀ session bare,
        Relation.ReflTransGen (store.TwinStep R) (opened, bareOpened) (session, bare) →
        session.state = bare.state ∧ R session.medium bare.medium ∧
        Medium.read session.medium store.name = Medium.read bare.medium store.name ∧
        ∀ operation handled after plain bareAfter, operation ≠ .fire →
          store.perform store.callbacks operation session = (handled, after) →
          store.unobserved.perform store.unobserved.callbacks operation bare =
            (plain, bareAfter) →
          ∃ events, after.events = session.events ++ events ∧
            (∀ paths, plain = .error (.invalidValue paths) ↔
              handled = .ok false ∧ events = [.invalid paths]) ∧
            (∀ current baseline, plain = .error (.conflict current baseline) ↔
              handled = .ok operation.outlastsConflict ∧
                events.filter Event.isConflict = [.conflict current baseline]) ∧
            ((∀ paths, plain ≠ .error (.invalidValue paths)) →
              (∀ current baseline, plain ≠ .error (.conflict current baseline)) →
              handled = plain) := by
  have hp := prepare_of_openOn hopen
  have he := (prepare_eq_ok hp).2
  have hname : store.name = draft.name := by rw [he]
  have hsilent : store.onInvalid = some .observe := by rw [he]; exact hinvalid
  have hquiet : store.onConflict = some .observe := by rw [he]; exact hconflict
  have hlate : store.settings.lazyLoad = true := by rw [he]; exact hlazy
  rw [← hname] at hmirrored
  rw [openOn_of_prepare hp, if_pos hlate] at hopen
  obtain rfl := (Prod.mk.inj hopen).2
  have hbareOpen : draft.unobserved.openOn bareMedium =
      (.ok store.unobserved, store.unobserved.start bareMedium) := by
    rw [openOn_of_prepare (prepare_unobserved hp)]
    exact if_pos hlate
  refine ⟨_, hbareOpen, fun session bare hrun => ?_⟩
  have htwin : Twin R session bare :=
    twin_of_twinSteps hmirrored hsilent hquiet hrun ⟨rfl, hmedia⟩
  refine ⟨htwin.state, htwin.medium, hmirrored.read htwin.medium, ?_⟩
  intro operation handled after plain bareAfter ho hperform hbare
  have hpassive : (store.callbacks : Callbacks μ) = Callbacks.passive :=
    callbacks_eq_passive (by rw [hsilent]; decide) (by rw [hquiet]; decide)
  have hbarePassive : (store.unobserved.callbacks : Callbacks ν) = Callbacks.passive := rfl
  have hcompares := htwin.perform hmirrored hquiet hsilent ho
  rw [hpassive] at hperform
  rw [hbarePassive] at hbare
  rw [hperform, hbare] at hcompares
  obtain ⟨events, hevents, htold⟩ := hcompares.told
  exact ⟨events, hevents, htold.invalid_iff, htold.conflict_iff, htold.eq_of_ne⟩

/-- A draft of one switch that is opened without a load and only takes note. -/
def watchedDraft : StoreDraft :=
  { name := "switch", schema := some switchSchema, settings := { lazyLoad := true },
    onInvalid := some .observe, onConflict := some .observe }

/-- The store of that switch. -/
def watchedStore : Store :=
  ⟨"switch", some switchSchema, some (.object [("on", .bool false)]), some switchSchema,
    { lazyLoad := true }, some .observe, some .observe⟩

/-- Two switches, one of them on a medium with another key, are loaded, and someone else writes to
both media. Turning the switch on then fails without handlers, and is told of otherwise. -/
theorem handlers_only_take_note_of_switch :
    ∃ opened bareOpened session bare after bareAfter : Session Memory,
      watchedDraft.openOn Memory.empty = (.ok watchedStore, opened) ∧
      watchedDraft.unobserved.openOn (Memory.empty.write "other" "1") =
        (.ok watchedStore.unobserved, bareOpened) ∧
      Relation.ReflTransGen
        (watchedStore.TwinStep (HoldAlike "switch" (fun _ => True) (fun _ => True)))
        (opened, bareOpened) (session, bare) ∧
      session.state.loaded = true ∧ session.state = bare.state ∧
      watchedStore.perform watchedStore.callbacks (.set (.text "on") (.bool true)) session =
        (.ok true, after) ∧
      watchedStore.unobserved.perform watchedStore.unobserved.callbacks
          (.set (.text "on") (.bool true)) bare =
        (.error (.conflict (some "7") (some "\x7b\"on\":false\x7d")), bareAfter) ∧
      ∃ events, after.events = session.events ++ events ∧
        events.filter Event.isConflict =
          [.conflict (some "7") (some "\x7b\"on\":false\x7d")] := by
  let R : Memory → Memory → Prop := HoldAlike "switch" (fun _ => True) (fun _ => True)
  let other := Memory.empty.write "other" "1"
  let opened := (watchedDraft.openOn Memory.empty).2
  let bareOpened := (watchedDraft.unobserved.openOn other).2
  let load (store : Store) (session : Session Memory) :=
    (store.perform store.callbacks .load session).2
  let session : Session Memory :=
    { load watchedStore opened with medium := Memory.empty.write "switch" "7" }
  let bare : Session Memory :=
    { load watchedStore.unobserved bareOpened with medium := other.write "switch" "7" }
  let turnOn := Operation.set (.text "on") (.bool true)
  have hmirrored : Mirrored "switch" R :=
    mirrored_of_reliable (reliable_memory "switch") (reliable_memory "switch")
  have hopen : watchedDraft.openOn Memory.empty = (.ok watchedStore, opened) := rfl
  have hmedia : R Memory.empty other := ⟨trivial, trivial, rfl⟩
  obtain ⟨bareOpened', hbareOpen, hall⟩ :=
    handlers_only_take_note rfl rfl rfl hmirrored hmedia hopen
  obtain rfl : bareOpened = bareOpened' := congrArg Prod.snd hbareOpen
  have hload : watchedStore.TwinStep R (opened, bareOpened)
      (load watchedStore opened, load watchedStore.unobserved bareOpened) := .perform .load
  have hrun : Relation.ReflTransGen (watchedStore.TwinStep R) (opened, bareOpened)
      (session, bare) :=
    (Relation.ReflTransGen.single hload).tail (.outside ⟨trivial, trivial, rfl⟩)
  obtain ⟨hstate, _, _, hnext⟩ := hall session bare hrun
  have hperform : watchedStore.perform watchedStore.callbacks turnOn session =
      (.ok true, (watchedStore.perform watchedStore.callbacks turnOn session).2) := rfl
  have hbare : watchedStore.unobserved.perform watchedStore.unobserved.callbacks turnOn bare =
      (.error (.conflict (some "7") (some "\x7b\"on\":false\x7d")),
        (watchedStore.unobserved.perform watchedStore.unobserved.callbacks turnOn bare).2) := rfl
  obtain ⟨events, hevents, _, hconflict, _⟩ := hnext turnOn _ _ _ _ nofun hperform hbare
  exact ⟨opened, bareOpened, session, bare, _, _, hopen, hbareOpen, hrun, rfl, hstate, hperform,
    hbare, events, hevents, ((hconflict _ _).mp rfl).2⟩

end Store

end ValidatedStore
