import ValidatedStore.Proofs.Store.Moves

/-!
# What operations decide before they turn to the medium

When handlers only take note, a load, an update and a reset first decide, from the value in memory
and the source alone, whether they decline, commit another value, or take one over from the source.
Only then is the medium involved, and in the same way for all of them. A decision is justified by
what the operation may do, and an operation that declines says so by its result.
-/

namespace ValidatedStore

/-- The session after further events. -/
def Session.noteAll {μ : Type} (session : Session μ) (events : List Event) : Session μ :=
  { session with events := session.events ++ events }

theorem Session.noteAll_nil {μ : Type} (session : Session μ) : session.noteAll [] = session := by
  rw [Session.noteAll, List.append_nil]

/-- Whether an error tells of the medium: that it failed, or that it holds something unseen. -/
def StoreError.concernsMedium : StoreError → Bool
  | .storage _ => true
  | .conflict _ _ => true
  | _ => false

/-- Whether an event is the report of a conflict. -/
def Event.isConflict : Event → Bool
  | .conflict _ _ => true
  | _ => false

theorem filter_isConflict_of_invalid {events : List Event}
    (h : ∀ event ∈ events, ∃ paths, event = .invalid paths) :
    events.filter Event.isConflict = [] := by
  refine List.filter_eq_nil_iff.mpr fun event hm => ?_
  obtain ⟨paths, rfl⟩ := h event hm
  exact Bool.false_ne_true

/-- The results of an operation that declines: false, or an error that does not tell of the
medium. -/
def Declines : Except StoreError Bool → Prop
  | .ok success => success = false
  | .error e => e.concernsMedium = false

/-- Operations that replace a part of the value or restore it. -/
inductive Operation.IsEdit : Operation → Prop
  /-- An update replaces a part. -/
  | update (selector : Selector) (patch : Option Value → Value) : IsEdit (.update selector patch)
  /-- A reset restores a part. -/
  | reset (selector : Selector) : IsEdit (.reset selector)

/-- Operations that take a value over from a source. -/
inductive Operation.IsLoad : Operation → Prop
  /-- The source is what the medium holds. -/
  | load : IsLoad .load
  /-- The source is given. -/
  | loadFrom (source : Option String) : IsLoad (.loadFrom source)

/-- What an operation does to the value. -/
inductive Decision
  /-- It leaves the value and has this result, after these events. -/
  | decline (result : Except StoreError Bool) (events : List Event)
  /-- It commits this value. -/
  | change (value : Value)
  /-- It takes this value over from a source, repaired or as it stands, after these events. -/
  | take (value : Value) (source : Option String) (repaired : Bool) (events : List Event)

namespace Store

/-- What is reported of invalid values to a handler that takes note. -/
def reports (store : Store) (paths : List KeyPath) : List Event :=
  match store.onInvalid with
  | none => []
  | some _ => [.invalid paths]

theorem reportRepair_eq_noteAll {μ : Type} (store : Store) (paths : List KeyPath)
    (session : Session μ) :
    store.reportRepair Callbacks.passive paths session = session.noteAll (store.reports paths) := by
  unfold reportRepair reports
  cases store.onInvalid with
  | none => exact session.noteAll_nil.symm
  | some handler => rfl

/-- An operation is declined because of invalid values. -/
def rejection (store : Store) (paths : List KeyPath) : Decision :=
  match store.onInvalid with
  | none => .decline (.error (.invalidValue paths)) []
  | some _ => .decline (.ok false) [.invalid paths]

/-- The decision of an update. -/
def decideUpdate (store : Store) (selector : Selector) (patch : Option Value → Value)
    (value : Value) : Decision :=
  match store.patched (store.resolve selector) patch value with
  | .error (.invalid paths) => store.rejection paths
  | .error (.fault fault) => .decline (.error (.invalidPath (store.resolve selector) fault)) []
  | .ok new => .change new

/-- The decision of a reset. -/
def decideReset (store : Store) (selector : Selector) (value : Value) : Decision :=
  if value.resolves (store.resolve selector) then
    match value.restore (store.resolve selector) (store.defaultAt (store.resolve selector)) with
    | .error fault => .decline (.error (.invalidPath (store.resolve selector) fault)) []
    | .ok restored =>
      if (store.failures restored).isEmpty then .change restored else .decline (.ok false) []
  else .decline (.ok false) []

/-- The decision of a load from a source. -/
def decideLoad (store : Store) : Option String → Decision
  | none =>
    match store.default with
    | none => .decline (.ok false) []
    | some value => .take value none false []
  | some text =>
    match store.examine text with
    | (value, []) => .take value (some text) false []
    | (value, path :: paths) =>
      match store.repairTemplate? with
      | none => store.rejection (path :: paths)
      | some template =>
        match value.repair template (path :: paths) with
        | .error (at?, fault) =>
          .decline (.error (.invalidPath at? fault)) (store.reports (path :: paths))
        | .ok repaired => .take repaired (some text) true (store.reports (path :: paths))

variable {μ : Type} [Medium μ]

/-- Carry out a decision with handlers that only take note. -/
def carryOut (store : Store) (decision : Decision) (session : Session μ) : Outcome μ Bool :=
  match decision with
  | .decline result events => (result, session.noteAll events)
  | .change value => store.commit Callbacks.passive value session
  | .take value source repaired events =>
    store.commitLoad Callbacks.passive value source repaired (session.noteAll events)

section Carrying

variable (store : Store) (session : Session μ)

theorem carryOut_decline_nil (result : Except StoreError Bool) :
    store.carryOut (.decline result []) session = (result, session) := by
  rw [carryOut, Session.noteAll_nil]

theorem carryOut_take_nil (value : Value) (source : Option String) (repaired : Bool) :
    store.carryOut (.take value source repaired []) session =
      store.commitLoad Callbacks.passive value source repaired session := by
  rw [carryOut, Session.noteAll_nil]

theorem reject_eq_carryOut (paths : List KeyPath) :
    store.reject Callbacks.passive paths session =
      store.carryOut (store.rejection paths) session := by
  unfold reject rejection
  cases store.onInvalid with
  | none => exact (carryOut_decline_nil store session _).symm
  | some handler => rfl

theorem update_eq_carryOut (selector : Selector) (patch : Option Value → Value) :
    store.update Callbacks.passive selector patch session =
      store.carryOut (store.decideUpdate selector patch session.state.value) session := by
  unfold update decideUpdate
  dsimp only
  cases store.patched (store.resolve selector) patch session.state.value with
  | ok value => rfl
  | error refusal =>
    cases refusal with
    | invalid paths => exact reject_eq_carryOut store session paths
    | fault fault => exact (carryOut_decline_nil store session _).symm

theorem reset_eq_carryOut (selector : Selector) :
    store.reset Callbacks.passive selector session =
      store.carryOut (store.decideReset selector session.state.value) session := by
  unfold reset decideReset
  dsimp only
  by_cases hp : session.state.value.resolves (store.resolve selector) = true
  · rw [if_pos hp, if_pos hp]
    cases session.state.value.restore (store.resolve selector)
      (store.defaultAt (store.resolve selector)) with
    | error fault => exact (carryOut_decline_nil store session _).symm
    | ok restored =>
      dsimp only
      by_cases hv : (store.failures restored).isEmpty = true
      · rw [if_pos hv, if_pos hv]
        rfl
      · rw [if_neg hv, if_neg hv]
        exact (carryOut_decline_nil store session _).symm
  · rw [if_neg hp, if_neg hp]
    exact (carryOut_decline_nil store session _).symm

theorem loadFrom_eq_carryOut (source : Option String) :
    store.loadFrom Callbacks.passive source session =
      store.carryOut (store.decideLoad source) session := by
  cases source with
  | none =>
    rw [loadFrom, decideLoad]
    cases store.default with
    | none => exact (carryOut_decline_nil store session _).symm
    | some value => exact (carryOut_take_nil store session value none false).symm
  | some text =>
    rw [loadFrom, decideLoad]
    obtain ⟨value, paths⟩ := store.examine text
    cases paths with
    | nil => exact (carryOut_take_nil store session value (some text) false).symm
    | cons path paths =>
      dsimp only
      cases store.repairTemplate? with
      | none => exact reject_eq_carryOut store session (path :: paths)
      | some template =>
        dsimp only
        rw [reportRepair_eq_noteAll]
        cases value.repair template (path :: paths) with
        | error fault => rfl
        | ok repaired => rfl

end Carrying

/-- The decisions that an operation may make on a value. -/
inductive Justified (store : Store) (operation : Operation) (old : Value) : Decision → Prop
  /-- It declines by its result, and reports nothing but invalid values. -/
  | decline {result : Except StoreError Bool} {events : List Event} (hr : Declines result)
      (he : ∀ event ∈ events, ∃ paths, event = .invalid paths) :
      Justified store operation old (.decline result events)
  /-- It commits a value that it may commit. -/
  | change {value : Value} (h : store.Changes operation old value) :
      Justified store operation old (.change value)
  /-- It takes a value over that the source offers, and as it stands only from a text in which
  nothing fails. -/
  | take {source : Option String} {value : Value} {repaired : Bool} {events : List Event}
      (hl : operation = .loadFrom source) (ho : store.Offers source value)
      (hs : ∀ text, source = some text → repaired = false → store.examine text = (value, []))
      (he : ∀ event ∈ events, ∃ paths, event = .invalid paths) :
      Justified store operation old (.take value source repaired events)

section Justification

variable (store : Store)

theorem invalid_of_mem_reports (paths : List KeyPath) :
    ∀ event ∈ store.reports paths, ∃ paths, event = .invalid paths := by
  intro event hm
  unfold reports at hm
  split at hm
  next => cases hm
  next => exact ⟨paths, List.mem_singleton.mp hm⟩

variable {operation : Operation} (old : Value)

theorem justified_rejection (paths : List KeyPath) :
    store.Justified operation old (store.rejection paths) := by
  unfold rejection
  split
  next => exact .decline rfl nofun
  next => exact .decline rfl fun event hm => ⟨paths, List.mem_singleton.mp hm⟩

theorem justified_decideUpdate (selector : Selector) (patch : Option Value → Value) :
    store.Justified (.update selector patch) old (store.decideUpdate selector patch old) := by
  unfold decideUpdate
  split
  next => exact justified_rejection store _ _
  next => exact .decline rfl nofun
  next h => exact .change (.update h)

theorem justified_decideReset (selector : Selector) :
    store.Justified (.reset selector) old (store.decideReset selector old) := by
  unfold decideReset
  split
  next =>
    split
    next => exact .decline rfl nofun
    next hr =>
      split
      next hv => exact .change (.reset hr (List.isEmpty_iff.mp hv))
      next => exact .decline rfl nofun
  next => exact .decline rfl nofun

theorem justified_decideLoad (source : Option String) :
    store.Justified (.loadFrom source) old (store.decideLoad source) := by
  cases source with
  | none =>
    rw [decideLoad]
    split
    next => exact .decline rfl nofun
    next hd => exact .take rfl (.default hd) nofun nofun
  | some text =>
    rw [decideLoad]
    split
    next he =>
      refine .take rfl (.sound he) (fun other ho _ => ?_) nofun
      obtain rfl := Option.some.inj ho
      exact he
    next he =>
      split
      next => exact justified_rejection store _ _
      next ht =>
        split
        next => exact .decline rfl (invalid_of_mem_reports store _)
        next hr => exact .take rfl (.repaired he ht hr) nofun (invalid_of_mem_reports store _)

end Justification

section Performing

variable (store : Store) {operation : Operation} (session : Session μ)

/-- An edit carries a decision out that it may make. -/
theorem exists_decision_of_isEdit (h : operation.IsEdit) :
    ∃ decision, store.Justified operation session.state.value decision ∧
      store.perform Callbacks.passive operation session = store.carryOut decision session := by
  cases h with
  | update selector patch =>
    exact ⟨_, justified_decideUpdate store _ selector patch,
      update_eq_carryOut store session selector patch⟩
  | reset selector =>
    exact ⟨_, justified_decideReset store _ selector, reset_eq_carryOut store session selector⟩

/-- A load fails to read the medium, or it carries out its decision on a source that it may take
over. -/
theorem load_cases (h : operation.IsLoad) :
    (∃ cause, store.perform Callbacks.passive operation session =
      (.error (.storage cause), session)) ∨
    ∃ source, store.Takes session.medium operation source ∧
      store.perform Callbacks.passive operation session =
        store.carryOut (store.decideLoad source) session := by
  cases h with
  | load =>
    rw [perform, load]
    cases hr : Medium.read session.medium store.name with
    | error cause => exact .inl ⟨cause, rfl⟩
    | ok source => exact .inr ⟨source, .load hr, loadFrom_eq_carryOut store session source⟩
  | loadFrom source => exact .inr ⟨source, .loadFrom, loadFrom_eq_carryOut store session source⟩

end Performing

end Store

end ValidatedStore
