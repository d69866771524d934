import ValidatedStore.Store.Editing
import ValidatedStore.Store.Loading

/-!
# Handlers that act on their store

A handler may turn to the store that called it: one of invalid values resets the whole value, one
of conflicts loads again. What happens inside such a call is only taken note of, so that handlers
do not call one another without end.
-/

namespace ValidatedStore

namespace Store

variable {μ : Type} [Medium μ]

/-- Reset the whole value on a handler's behalf. -/
def resetWithin (store : Store) (session : Session μ) : Session μ :=
  match store.reset Callbacks.passive (.text "") session with
  | (result, session) => session.note (.reset result.toOption)

/-- Load again on a handler's behalf. -/
def loadWithin (store : Store) (session : Session μ) : Session μ :=
  match store.load Callbacks.passive session with
  | (result, session) => session.note (.reload result.toOption)

/-- What the handlers of a store do. -/
def callbacks (store : Store) : Callbacks μ where
  afterInvalid :=
    match store.onInvalid with
    | some .resetAll => store.resetWithin
    | _ => id
  afterConflict :=
    match store.onConflict with
    | some .reload => store.loadWithin
    | _ => id

end Store

end ValidatedStore
