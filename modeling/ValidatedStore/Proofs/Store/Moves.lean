import Mathlib.Logic.Relation
import ValidatedStore.Store.Operation

/-!
# What an operation can do to a session

Every operation of a store is a sequence of five kinds of moves: an event is noted, a save is put
off or taken up, a new value is committed, a load takes a source over, and a save writes; in
between it hands the session to a handler. The moves carry the conditions under which the
operation makes them, so that what every move preserves is preserved by all operations.
-/

namespace ValidatedStore

/-- The outcome with this value where it succeeds. -/
def Outcome.succeeding {μ α β : Type} (value : β) : Outcome μ α → Outcome μ β
  | (.ok _, after) => (.ok value, after)
  | (.error e, after) => (.error e, after)

theorem Outcome.succeeding_snd {μ α β : Type} (value : β) (outcome : Outcome μ α) :
    (Outcome.succeeding value outcome).2 = outcome.2 := by
  rcases outcome with ⟨_ | _, _⟩ <;> rfl

theorem Outcome.succeeding_eq_error_iff {μ α β : Type} {value : β} {outcome : Outcome μ α}
    {e : StoreError} {after : Session μ} :
    Outcome.succeeding value outcome = (.error e, after) ↔ outcome = (.error e, after) := by
  rcases outcome with ⟨_ | _, _⟩ <;> simp [Outcome.succeeding]

theorem Outcome.eq_of_succeeding_eq_ok {μ α β : Type} {value result : β} {outcome : Outcome μ α}
    {after : Session μ} (h : Outcome.succeeding value outcome = (.ok result, after)) :
    result = value := by
  rcases outcome with ⟨_ | _, _⟩
  · cases (Prod.mk.inj h).1
  · exact (Except.ok.inj (Prod.mk.inj h).1).symm

namespace Store

variable {μ : Type} [Medium μ]

/-- A patched value has the patch of the part that was found at its path, and this fails nowhere. -/
theorem patched_eq_ok {store : Store} {path : KeyPath} {patch : Option Value → Value}
    {old new : Value} (h : store.patched path patch old = .ok new) :
    ∃ failures current, store.partFailures? path = some failures ∧ old.find path = .ok current ∧
      failures (patch current) = [] ∧ old.overwrite path (patch current) = .ok new := by
  unfold patched at h
  split at h
  next => cases h
  next failures hp =>
    split at h
    next => cases h
    next current hf =>
      split at h
      next hv =>
        cases ho : old.overwrite path (patch current) with
        | error fault => rw [ho] at h; cases h
        | ok written =>
          rw [ho] at h
          obtain rfl : written = new := Except.ok.inj h
          exact ⟨failures, current, hp, hf, hv, ho⟩
      next => cases h

/-- The values that an operation may commit in the place of another, a load apart. -/
inductive Changes (store : Store) : Operation → Value → Value → Prop
  /-- An update patches the part at its path. -/
  | update {selector : Selector} {patch : Option Value → Value} {old new : Value}
      (h : store.patched (store.resolve selector) patch old = .ok new) :
      Changes store (.update selector patch) old new
  /-- A reset restores the default at its path, and the whole value is checked. -/
  | reset {selector : Selector} {old new : Value}
      (hr : old.restore (store.resolve selector) (store.defaultAt (store.resolve selector)) =
        .ok new)
      (hv : store.failures new = []) : Changes store (.reset selector) old new

/-- The sources that an operation may take over, given the medium on which it starts. -/
inductive Takes (store : Store) (medium : μ) : Operation → Option String → Prop
  /-- A load takes what it reads. -/
  | load {source : Option String} (h : Medium.read medium store.name = .ok source) :
      Takes store medium .load source
  /-- A load from a source takes that source. -/
  | loadFrom {source : Option String} : Takes store medium (.loadFrom source) source

/-- The values that a load may commit for a source. -/
inductive Offers (store : Store) : Option String → Value → Prop
  /-- Nothing stands for the default. -/
  | default {value : Value} (h : store.default = some value) : Offers store none value
  /-- A text stands for its value, if that is valid. -/
  | sound {text : String} {value : Value} (h : store.examine text = (value, [])) :
      Offers store (some text) value
  /-- A text with an invalid value stands for what a repair makes of it. -/
  | repaired {text : String} {value repaired : Value} {path : KeyPath} {paths : List KeyPath}
      {template : Template} (he : store.examine text = (value, path :: paths))
      (ht : store.repairTemplate? = some template)
      (hr : value.repair template (path :: paths) = .ok repaired) :
      Offers store (some text) repaired

theorem template?_of_repairTemplate? {store : Store} {template : Template}
    (h : store.repairTemplate? = some template) : store.template? = some template := by
  unfold repairTemplate? at h
  split at h
  next => exact h
  next => cases h

/-- The session after a load took a value over from a source. -/
def taken (value : Value) (source : Option String) (session : Session μ) : Session μ :=
  let state := { session.state with value := value, baseline := source, loaded := true }
  { session with state := state.record (.loaded source) }

/-- One move of an operation, which started on the given medium. -/
inductive Move (store : Store) (operation : Operation) (origin : μ) : Session μ → Session μ → Prop
  /-- An event is noted. -/
  | note (session : Session μ) (event : Event) :
      Move store operation origin session (session.note event)
  /-- A save is put off or taken up. -/
  | pending (session : Session μ) (pending : Bool) :
      Move store operation origin session (withPending pending session)
  /-- A changed value is committed. -/
  | change {session : Session μ} {value : Value}
      (h : store.Changes operation session.state.value value) :
      Move store operation origin session
        { session with state := { session.state with value := value } }
  /-- A load takes a source over. -/
  | load {session : Session μ} {source : Option String} {value : Value}
      (ht : store.Takes origin operation source) (ho : store.Offers source value) :
      Move store operation origin session (taken value source session)
  /-- A save writes; a secure store has found its baseline in the medium. -/
  | save {session : Session μ} (h : store.settings.secure = true →
      Medium.read session.medium store.name = .ok session.state.baseline) :
      Move store operation origin session (store.write session).2

/-- Writing leaves the value as it is. -/
theorem write_value (store : Store) (session : Session μ) :
    (store.write session).2.state.value = session.state.value := by
  unfold write
  dsimp only
  split <;> rfl

/-- One move of an operation, or one call of a handler. -/
def Stride (store : Store) (callbacks : Callbacks μ) (operation : Operation) (origin : μ)
    (before after : Session μ) : Prop :=
  store.Move operation origin before after ∨ after = callbacks.afterInvalid before ∨
    after = callbacks.afterConflict before

/-- Moves and calls of handlers one after another. -/
abbrev Trail (store : Store) (callbacks : Callbacks μ) (operation : Operation) (origin : μ) :
    Session μ → Session μ → Prop :=
  Relation.ReflTransGen (store.Stride callbacks operation origin)

section Outcomes

variable (store : Store) (callbacks : Callbacks μ) (session : Session μ)

/-- A save at once writes, fails before that, or reports a conflict; a secure store has found its
baseline in the medium when it writes. -/
theorem saveNow_cases :
    (store.saveNow callbacks session = store.write session ∧ (store.settings.secure = true →
      Medium.read session.medium store.name = .ok session.state.baseline)) ∨
    (∃ cause, store.saveNow callbacks session = (.error (.storage cause), session)) ∨
    ∃ current, store.saveNow callbacks session =
      store.reportConflict callbacks current session := by
  unfold saveNow
  split
  next =>
    split
    next cause _ => exact .inr (.inl ⟨cause, rfl⟩)
    next current hr =>
      split
      next heq => exact .inl ⟨rfl, fun _ => heq ▸ hr⟩
      next => exact .inr (.inr ⟨current, rfl⟩)
  next hs => exact .inl ⟨rfl, fun h => absurd h hs⟩

/-- A request puts a save off or saves at once. -/
theorem requestSave_eq :
    store.requestSave callbacks session =
      if store.settings.isDebounced then (.ok (), withPending true session)
      else Outcome.succeeding () (store.saveNow callbacks session) := by
  unfold requestSave
  rcases store.saveNow callbacks session with ⟨_ | _, _⟩ <;> rfl

theorem requestSave_snd :
    (store.requestSave callbacks session).2 =
      if store.settings.isDebounced then withPending true session
      else (store.saveNow callbacks session).2 := by
  rw [requestSave_eq, apply_ite Prod.snd, Outcome.succeeding_snd]

/-- A commit replaces the value and requests a save. -/
theorem commit_eq (value : Value) :
    store.commit callbacks value session =
      Outcome.succeeding true (store.requestSave callbacks
        { session with state := { session.state with value := value } }) := by
  unfold commit
  dsimp only
  rcases store.requestSave callbacks
    { session with state := { session.state with value := value } } with ⟨_ | _, _⟩ <;> rfl

theorem commit_snd (value : Value) :
    (store.commit callbacks value session).2 =
      (store.requestSave callbacks
        { session with state := { session.state with value := value } }).2 := by
  rw [commit_eq, Outcome.succeeding_snd]

/-- A load takes a value over, and requests a save where the source does not hold the value. -/
theorem commitLoad_eq (value : Value) (source : Option String) (repaired : Bool) :
    store.commitLoad callbacks value source repaired session =
      if source.isNone || repaired then
        Outcome.succeeding true (store.requestSave callbacks (taken value source session))
      else (.ok true, taken value source session) := by
  unfold commitLoad taken
  dsimp only
  split
  next =>
    split
    next heq => rw [heq]; rfl
    next heq => rw [heq]; rfl
  next => rfl

theorem commitLoad_snd (value : Value) (source : Option String) (repaired : Bool) :
    (store.commitLoad callbacks value source repaired session).2 =
      if source.isNone || repaired then
        (store.requestSave callbacks (taken value source session)).2
      else taken value source session := by
  rw [commitLoad_eq, apply_ite Prod.snd, Outcome.succeeding_snd]

end Outcomes

section Unchanged

variable {store : Store} {callbacks : Callbacks μ}
  (hconflict : ∀ session, (callbacks.afterConflict session).state.value = session.state.value)
include hconflict

/-- A save keeps the value if the handler of conflicts does. -/
theorem saveNow_value (session : Session μ) :
    (store.saveNow callbacks session).2.state.value = session.state.value := by
  rcases saveNow_cases store callbacks session with ⟨h, _⟩ | ⟨cause, h⟩ | ⟨current, h⟩
  · rw [h]
    exact write_value store session
  · rw [h]
  · rw [h]
    unfold reportConflict
    dsimp only
    split
    next => rfl
    next => exact hconflict _

/-- So does a request. -/
theorem requestSave_value (session : Session μ) :
    (store.requestSave callbacks session).2.state.value = session.state.value := by
  rw [requestSave_snd]
  split
  next => rfl
  next => exact saveNow_value hconflict _

/-- A commit ends with its value if the handler of conflicts keeps values. -/
theorem commit_value (value : Value) (session : Session μ) :
    (store.commit callbacks value session).2.state.value = value := by
  rw [commit_snd]
  exact requestSave_value hconflict _

/-- A load that takes a value over ends with it if the handler of conflicts keeps values. -/
theorem commitLoad_value (value : Value) (source : Option String) (repaired : Bool)
    (session : Session μ) :
    (store.commitLoad callbacks value source repaired session).2.state.value = value := by
  rw [commitLoad_snd]
  split
  next => exact requestSave_value hconflict _
  next => rfl

end Unchanged

section Trails

variable {store : Store} {callbacks : Callbacks μ} {operation : Operation} {origin : μ}
  {session : Session μ}

theorem Move.trail {before after : Session μ} (h : store.Move operation origin before after) :
    store.Trail callbacks operation origin before after :=
  .single (.inl h)

theorem trail_afterInvalid :
    store.Trail callbacks operation origin session (callbacks.afterInvalid session) :=
  .single (.inr (.inl rfl))

theorem trail_afterConflict :
    store.Trail callbacks operation origin session (callbacks.afterConflict session) :=
  .single (.inr (.inr rfl))

/-- A conflict is noted and handed to the handler, or it changes nothing. -/
theorem trail_reportConflict (current : Option String) :
    store.Trail callbacks operation origin session
      (store.reportConflict callbacks current session).2 := by
  unfold reportConflict
  split
  next => exact .refl
  next => exact (Move.note session _).trail.trans trail_afterConflict

/-- A save at once writes, reports a conflict, or fails before both. -/
theorem trail_saveNow :
    store.Trail callbacks operation origin session (store.saveNow callbacks session).2 := by
  rcases saveNow_cases store callbacks session with ⟨h, hr⟩ | ⟨cause, h⟩ | ⟨current, h⟩
  · rw [h]
    exact (Move.save hr).trail
  · rw [h]
  · rw [h]
    exact trail_reportConflict current

theorem trail_requestSave :
    store.Trail callbacks operation origin session (store.requestSave callbacks session).2 := by
  rw [requestSave_snd]
  split
  next => exact (Move.pending session true).trail
  next => exact trail_saveNow

theorem trail_save :
    store.Trail callbacks operation origin session (store.save callbacks session).2 :=
  (Move.pending session false).trail.trans trail_saveNow

theorem trail_flush :
    store.Trail callbacks operation origin session (store.flush callbacks session).2 := by
  unfold flush
  split
  next => exact trail_save
  next => exact .refl

theorem trail_reject (paths : List KeyPath) :
    store.Trail callbacks operation origin session (store.reject callbacks paths session).2 := by
  unfold reject
  split
  next => exact .refl
  next => exact (Move.note session _).trail.trans trail_afterInvalid

/-- A change that the operation admits is committed, and then a save is requested. -/
theorem trail_commit {value : Value} (h : store.Changes operation session.state.value value) :
    store.Trail callbacks operation origin session (store.commit callbacks value session).2 := by
  rw [commit_snd]
  exact (Move.change h).trail.trans trail_requestSave

theorem trail_update (selector : Selector) (patch : Option Value → Value) :
    store.Trail callbacks (.update selector patch) origin session
      (store.update callbacks selector patch session).2 := by
  unfold update
  dsimp only
  split
  next paths _ => exact trail_reject paths
  next => exact .refl
  next value h => exact trail_commit (.update h)

theorem trail_reset (selector : Selector) :
    store.Trail callbacks (.reset selector) origin session
      (store.reset callbacks selector session).2 := by
  unfold reset
  dsimp only
  split
  next =>
    split
    next => exact .refl
    next restored hr =>
      split
      next hv => exact trail_commit (.reset hr (List.isEmpty_iff.mp hv))
      next => exact .refl
  next => exact .refl

/-- A value that a source offers is taken over, and then a save is requested where the source does
not hold the value. -/
theorem trail_commitLoad {source : Option String} {value : Value} (repaired : Bool)
    (ht : store.Takes origin operation source) (ho : store.Offers source value) :
    store.Trail callbacks operation origin session
      (store.commitLoad callbacks value source repaired session).2 := by
  refine (Move.load ht ho).trail.trans ?_
  rw [commitLoad_snd]
  split
  next => exact trail_requestSave
  next => exact .refl

theorem trail_loadFrom {source : Option String} (ht : store.Takes origin operation source) :
    store.Trail callbacks operation origin session
      (store.loadFrom callbacks source session).2 := by
  cases source with
  | none =>
    rw [loadFrom]
    split
    next => exact .refl
    next value hd => exact trail_commitLoad false ht (.default hd)
  | some text =>
    rw [loadFrom]
    split
    next value he => exact trail_commitLoad false ht (.sound he)
    next value path paths he =>
      split
      next => exact trail_reject (path :: paths)
      next template htemplate =>
        have hreport : store.Trail callbacks operation origin session
            (store.reportRepair callbacks (path :: paths) session) := by
          unfold reportRepair
          split
          next => exact .refl
          next => exact (Move.note session _).trail.trans trail_afterInvalid
        dsimp only
        split
        next => exact hreport
        next repaired hr =>
          exact hreport.trans (trail_commitLoad true ht (.repaired he htemplate hr))

/-- Every operation is a sequence of its moves and of calls of handlers. -/
theorem trail_perform (operation : Operation) :
    store.Trail callbacks operation session.medium session
      (store.perform callbacks operation session).2 := by
  cases operation with
  | load =>
    rw [perform, load]
    split
    next => exact .refl
    next source hr => exact trail_loadFrom (.load hr)
  | loadFrom source => exact trail_loadFrom .loadFrom
  | update selector patch => exact trail_update selector patch
  | reset selector => exact trail_reset selector
  | save => exact trail_save
  | flush => exact trail_flush
  | fire => exact trail_flush

end Trails

end Store

end ValidatedStore
