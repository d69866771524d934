import ValidatedStore.Store.Handling
import ValidatedStore.Store.Opening

/-!
# Operations of stores

Everything that can happen to an open store, short of its end, as one type. A history of a store
is then a list of operations, carried out one after another whatever their results are.
-/

namespace ValidatedStore

/-- What is asked of a store, or happens to it. -/
inductive Operation
  /-- Load what the medium holds. -/
  | load
  /-- Load from a given source. -/
  | loadFrom (source : Option String)
  /-- Replace the part at a selector by its patch. -/
  | update (selector : Selector) (patch : Option Value → Value)
  /-- Restore the default of the part at a selector. -/
  | reset (selector : Selector)
  /-- Save now. -/
  | save
  /-- Do a save that was put off. -/
  | flush
  /-- The delay of a save that was put off runs out. -/
  | fire

namespace Operation

/-- Replace the part at a selector. -/
def set (selector : Selector) (part : Value) : Operation := .update selector fun _ => part

end Operation

namespace Store

variable {μ : Type} [Medium μ]

/-- Carry out an operation. The end of a delay has no result that anyone sees. -/
def perform (store : Store) (callbacks : Callbacks μ) (operation : Operation)
    (session : Session μ) : Outcome μ Bool :=
  match operation with
  | .load => store.load callbacks session
  | .loadFrom source => store.loadFrom callbacks source session
  | .update selector patch => store.update callbacks selector patch session
  | .reset selector => store.reset callbacks selector session
  | .save => store.save callbacks session
  | .flush => store.flush callbacks session
  | .fire => (.ok false, store.fire callbacks session)

/-- Carry out operations one after another, and keep the session alone. -/
def performAll (store : Store) (callbacks : Callbacks μ) (operations : List Operation)
    (session : Session μ) : Session μ :=
  operations.foldl (fun session operation => (store.perform callbacks operation session).2) session

end Store

end ValidatedStore
