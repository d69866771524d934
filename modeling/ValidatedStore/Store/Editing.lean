import ValidatedStore.Store.Saving

/-!
# Reading and changing the value

A change is checked where it happens: the schema declared at the path has to accept the new part,
and a path at which nothing is declared cannot be written. A reset is checked on the whole value.
A change that passes is committed to memory, and then a save is requested.
-/

namespace ValidatedStore

/-- Why a change is not committed. -/
inductive Refusal
  /-- The new value fails at these paths. -/
  | invalid (paths : List KeyPath)
  /-- The path leads nowhere. -/
  | fault (fault : PathFault)

namespace Store

variable {μ : Type} [Medium μ]

/-- The value at a selector; none when only the last key is missing. -/
def get (store : Store) (selector : Selector) (session : Session μ) :
    Except StoreError (Option Value) :=
  let path := store.resolve selector
  (session.state.value.find path).mapError (.invalidPath path)

/-- The places at which a new part fails the schema declared at its path, seen from the whole
value; none when nothing is declared there. -/
def partFailures? (store : Store) (path : KeyPath) : Option (Value → List KeyPath) :=
  match store.validator with
  | none => some fun _ => []
  | some validator =>
    match validator.declared path with
    | .error _ => none
    | .ok schema => some fun part => (schema.failures (some part)).map (path ++ ·)

/-- The value with the part at a path patched, if the patched part is valid. -/
def patched (store : Store) (path : KeyPath) (patch : Option Value → Value) (value : Value) :
    Except Refusal Value :=
  match store.partFailures? path with
  | none => .error (.invalid [path])
  | some failures =>
    match value.find path with
    | .error fault => .error (.fault fault)
    | .ok current =>
      match failures (patch current) with
      | [] => (value.overwrite path (patch current)).mapError .fault
      | path :: paths => .error (.invalid (path :: paths))

/-- Commit a value to memory and request a save. -/
def commit (store : Store) (callbacks : Callbacks μ) (value : Value) (session : Session μ) :
    Outcome μ Bool :=
  let session := { session with state := { session.state with value := value } }
  match store.requestSave callbacks session with
  | (.ok _, session) => (.ok true, session)
  | (.error e, session) => (.error e, session)

/-- Replace the part at a selector by its patch. The result is false when a handler was told of an
invalid part, and then nothing is changed. -/
def update (store : Store) (callbacks : Callbacks μ) (selector : Selector)
    (patch : Option Value → Value) (session : Session μ) : Outcome μ Bool :=
  let path := store.resolve selector
  match store.patched path patch session.state.value with
  | .error (.invalid paths) => store.reject callbacks paths session
  | .error (.fault fault) => (.error (.invalidPath path fault), session)
  | .ok value => store.commit callbacks value session

/-- Replace the part at a selector. -/
def set (store : Store) (callbacks : Callbacks μ) (selector : Selector) (part : Value)
    (session : Session μ) : Outcome μ Bool :=
  store.update callbacks selector (fun _ => part) session

/-- What belongs at a path by the store's template; none says that nothing does. -/
def defaultAt (store : Store) (path : KeyPath) : Option Value :=
  store.template?.bind fun template => template.defaultAt path

/-- Restore the default of the part at a selector; a part without one is removed. The result is
false when the path does not resolve and when the whole value would become invalid, and then
nothing is changed. -/
def reset (store : Store) (callbacks : Callbacks μ) (selector : Selector) (session : Session μ) :
    Outcome μ Bool :=
  let path := store.resolve selector
  let value := session.state.value
  if value.resolves path then
    match value.restore path (store.defaultAt path) with
    | .error fault => (.error (.invalidPath path fault), session)
    | .ok restored =>
      if (store.failures restored).isEmpty then store.commit callbacks restored session
      else (.ok false, session)
  else (.ok false, session)

end Store

end ValidatedStore
