import ValidatedStore.Json.Printer
import ValidatedStore.Store

/-!
# Saving

A save writes the compact JSON text of the value, which becomes the baseline. A secure store first
compares the medium with the baseline and writes nothing when they differ. A store with a delay
puts its saves off: the state marks that one is pending, however many were requested.
-/

namespace ValidatedStore

namespace Store

variable {μ : Type} [Medium μ]

/-- Write the value to the medium; the written text is the new baseline. -/
def write (store : Store) (session : Session μ) : Outcome μ Bool :=
  let text := Json.print session.state.value
  match Medium.write session.medium store.name text with
  | (.error cause, medium) => (.error (.storage cause), { session with medium := medium })
  | (.ok _, medium) =>
    let state := { session.state with baseline := some text }
    let entry := Access.saved state.value state.baseline
    (.ok true, { session with state := state.record entry, medium := medium })

/-- Report that the medium holds something else than the baseline; without a handler the
operation fails. -/
def reportConflict (store : Store) (callbacks : Callbacks μ) (current : Option String)
    (session : Session μ) : Outcome μ Bool :=
  let baseline := session.state.baseline
  match store.onConflict with
  | none => (.error (.conflict current baseline), session)
  | some _ => (.ok false, callbacks.afterConflict (session.note (.conflict current baseline)))

/-- Save at once, if no conflict is found. -/
def saveNow (store : Store) (callbacks : Callbacks μ) (session : Session μ) : Outcome μ Bool :=
  if store.settings.secure then
    match Medium.read session.medium store.name with
    | .error cause => (.error (.storage cause), session)
    | .ok current =>
      if current = session.state.baseline then store.write session
      else store.reportConflict callbacks current session
  else store.write session

/-- The session with or without a save put off. -/
def withPending (pending : Bool) (session : Session μ) : Session μ :=
  { session with state := { session.state with pending := pending } }

/-- Save after a change: put the save off if the store has a delay, and save at once otherwise.
A conflict that a handler was told of is no failure. -/
def requestSave (store : Store) (callbacks : Callbacks μ) (session : Session μ) :
    Outcome μ Unit :=
  if store.settings.isDebounced then (.ok (), withPending true session)
  else
    match store.saveNow callbacks session with
    | (.ok _, session) => (.ok (), session)
    | (.error e, session) => (.error e, session)

/-- Save now, in the place of a save that was put off. The result is false when a handler was told
of a conflict. -/
def save (store : Store) (callbacks : Callbacks μ) (session : Session μ) : Outcome μ Bool :=
  store.saveNow callbacks (withPending false session)

/-- Do a save that was put off; false when there is none. -/
def flush (store : Store) (callbacks : Callbacks μ) (session : Session μ) : Outcome μ Bool :=
  if session.state.pending then store.saveNow callbacks (withPending false session)
  else (.ok false, session)

/-- The delay has run out: a save that was put off is done, and its failure is nobody's. -/
def fire (store : Store) (callbacks : Callbacks μ) (session : Session μ) : Session μ :=
  (store.flush callbacks session).2

/-- Let the delay run out until no save is put off. A second round is due when a handler loaded
again and the loaded value had to be repaired; then the store has seen what the medium holds. -/
def settle (store : Store) (callbacks : Callbacks μ) (session : Session μ) : Session μ :=
  store.fire callbacks (store.fire callbacks session)

/-- The end of a store: a save that was put off is done, with handlers that only take note. -/
def close (store : Store) (session : Session μ) : Session μ :=
  store.fire Callbacks.passive session

end Store

end ValidatedStore
