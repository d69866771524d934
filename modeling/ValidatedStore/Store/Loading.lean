import ValidatedStore.Json.Reader
import ValidatedStore.Store.Saving

/-!
# Loading

A source is a JSON text, or nothing. Nothing gives the default; a text gives the value it denotes
if the validator accepts it, and otherwise a repaired value or a refusal. Once a value is
committed the source is the baseline, and a value that differs from its source is saved.
-/

namespace ValidatedStore

namespace Store

variable {μ : Type} [Medium μ]

/-- The value in a text and the places at which it fails. A text that is no JSON fails as a
whole. -/
def examine (store : Store) (source : String) : Value × List KeyPath :=
  match Json.parse source with
  | some value => (value, store.failures value)
  | none => (.null, [KeyPath.root])

/-- The template for repairs, if the store repairs at all. -/
def repairTemplate? (store : Store) : Option Template :=
  if store.settings.autoFix then store.template? else none

/-- Tell the handler of invalid values about places that are going to be repaired. -/
def reportRepair (store : Store) (callbacks : Callbacks μ) (paths : List KeyPath)
    (session : Session μ) : Session μ :=
  match store.onInvalid with
  | none => session
  | some _ => callbacks.afterInvalid (session.note (.invalid paths))

/-- Take a value over from a source, and save it if the source does not hold it. -/
def commitLoad (store : Store) (callbacks : Callbacks μ) (value : Value) (source : Option String)
    (repaired : Bool) (session : Session μ) : Outcome μ Bool :=
  let state := { session.state with value := value, baseline := source, loaded := true }
  let session := { session with state := state.record (.loaded source) }
  if source.isNone || repaired then
    match store.requestSave callbacks session with
    | (.ok _, session) => (.ok true, session)
    | (.error e, session) => (.error e, session)
  else (.ok true, session)

/-- Load from a source. The result is false when there is neither a source nor a default, and when
a handler was told of a value that is not repaired. -/
def loadFrom (store : Store) (callbacks : Callbacks μ) (source : Option String)
    (session : Session μ) : Outcome μ Bool :=
  match source with
  | none =>
    match store.default with
    | none => (.ok false, session)
    | some value => store.commitLoad callbacks value none false session
  | some text =>
    match store.examine text with
    | (value, []) => store.commitLoad callbacks value (some text) false session
    | (value, path :: paths) =>
      match store.repairTemplate? with
      | none => store.reject callbacks (path :: paths) session
      | some template =>
        let session := store.reportRepair callbacks (path :: paths) session
        match value.repair template (path :: paths) with
        | .error (path, fault) => (.error (.invalidPath path fault), session)
        | .ok repaired => store.commitLoad callbacks repaired (some text) true session

/-- Load what the medium holds. -/
def load (store : Store) (callbacks : Callbacks μ) (session : Session μ) : Outcome μ Bool :=
  match Medium.read session.medium store.name with
  | .error cause => (.error (.storage cause), session)
  | .ok source => store.loadFrom callbacks source session

end Store

end ValidatedStore
