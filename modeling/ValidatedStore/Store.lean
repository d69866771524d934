import ValidatedStore.Repair
import ValidatedStore.Store.Error

/-!
# Stores

A store mirrors one validated value to a key of a medium. What never changes after opening is the
`Store`; what its operations change is its `State`; and a `Session` is the state together with the
medium and with the events its handlers saw. An operation is a function of the store and a session
that returns a result and the next session, also when it fails.
-/

namespace ValidatedStore

/-- What a handler of invalid values does. -/
inductive InvalidHandler
  /-- It takes note of the paths. -/
  | observe
  /-- It takes note of the paths and then resets the whole value. -/
  | resetAll
deriving DecidableEq

/-- What a handler of conflicts does. -/
inductive ConflictHandler
  /-- It takes note of the two texts. -/
  | observe
  /-- It takes note of the two texts and then loads again. -/
  | reload
deriving DecidableEq

/-- What the handlers of a store see and do. -/
inductive Event
  /-- These paths failed a load or a write. -/
  | invalid (paths : List KeyPath)
  /-- The medium held the first text when the store had last seen the second. -/
  | conflict (current baseline : Option String)
  /-- A handler reset the whole value; none says that the reset failed. -/
  | reset (result : Option Bool)
  /-- A handler loaded again; none says that the load failed. -/
  | reload (result : Option Bool)
deriving DecidableEq

/-- The fixed part of a store. -/
structure Store where
  /-- The key under which the value is kept. -/
  name : String
  /-- The schema given for the store. -/
  schema : Option Schema
  /-- The value for a medium that holds none. -/
  default : Option Value
  /-- The schema against which values are checked: the one given, or the shape of the default. -/
  validator : Option Schema
  /-- The switches. -/
  settings : Settings
  /-- The handler of invalid values, if there is one. -/
  onInvalid : Option InvalidHandler
  /-- The handler of conflicts, if there is one. -/
  onConflict : Option ConflictHandler

/-- What a store reports of its dealings with the medium. -/
inductive Access
  /-- A load took this source over. -/
  | loaded (source : Option String)
  /-- A save wrote this value and left the store with this baseline. -/
  | saved (value : Value) (baseline : Option String)

/-- The changing part of a store. -/
structure State where
  /-- The value in memory. -/
  value : Value
  /-- The text last seen in the medium or written to it. -/
  baseline : Option String
  /-- Whether a load has succeeded. -/
  loaded : Bool
  /-- Whether a save is put off. -/
  pending : Bool
  /-- The log of loads and saves, in order; no operation consults it. -/
  log : List Access

/-- The state of a store that has loaded nothing. -/
def State.initial (value : Value) : State := ⟨value, none, false, false, []⟩

/-- The state with one more line in its log. -/
def State.record (state : State) (access : Access) : State :=
  { state with log := state.log ++ [access] }

/-- A store's state, its medium, and the events seen so far. -/
structure Session (μ : Type) where
  /-- The state of the store. -/
  state : State
  /-- The medium, which others may share. -/
  medium : μ
  /-- The events in order. -/
  events : List Event

/-- The session after another event. -/
def Session.note {μ : Type} (session : Session μ) (event : Event) : Session μ :=
  { session with events := session.events ++ [event] }

/-- The outcome of an operation, and the session in which it ends. -/
abbrev Outcome (μ α : Type) := Except StoreError α × Session μ

/-- What becomes of a session when a handler, after taking note of an event, acts on the store. -/
structure Callbacks (μ : Type) where
  /-- What follows a report of invalid values. -/
  afterInvalid : Session μ → Session μ
  /-- What follows a report of a conflict. -/
  afterConflict : Session μ → Session μ

/-- Handlers that only take note. -/
def Callbacks.passive {μ : Type} : Callbacks μ := ⟨id, id⟩

namespace Store

/-- The path that a selector names. -/
def resolve (store : Store) (selector : Selector) : KeyPath :=
  selector.resolve store.settings.pathSeparator

/-- The places at which a value fails the store's validator. -/
def failures (store : Store) (value : Value) : List KeyPath :=
  match store.validator with
  | none => []
  | some validator => validator.failures (some value)

/-- Where the store takes the defaults of places from: its schema if there is one, and otherwise
its default. -/
def template? (store : Store) : Option Template :=
  match store.schema, store.default with
  | some schema, _ => some (.schema schema)
  | none, some value => some (.sample value)
  | none, none => none

/-- Report invalid values to the handler; without one the operation fails. -/
def reject {μ : Type} (store : Store) (callbacks : Callbacks μ) (paths : List KeyPath)
    (session : Session μ) : Outcome μ Bool :=
  match store.onInvalid with
  | none => (.error (.invalidValue paths), session)
  | some _ => (.ok false, callbacks.afterInvalid (session.note (.invalid paths)))

end Store

end ValidatedStore
