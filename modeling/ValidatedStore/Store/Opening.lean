import ValidatedStore.Schema.Inference
import ValidatedStore.Store.Loading

/-!
# Opening stores

A draft collects what a store is to be. Opening checks the settings and the default, finds the
validator, and loads unless the settings leave that out; a store whose first load fails is not
opened. Handlers that are called while the store opens only take note.
-/

namespace ValidatedStore

/-- What a store is to be. -/
structure StoreDraft where
  /-- The key under which the value is kept. -/
  name : String
  /-- The schema for the values. -/
  schema : Option Schema := none
  /-- The value for a medium that holds none. -/
  default : Option Value := none
  /-- The switches. -/
  settings : Settings := {}
  /-- The handler of invalid values. -/
  onInvalid : Option InvalidHandler := none
  /-- The handler of conflicts. -/
  onConflict : Option ConflictHandler := none

namespace StoreDraft

/-- The draft with the tree of a graph node as the default; the node must reach no container
twice. -/
def withGraph (draft : StoreDraft) (heap : Heap) (node : Node) : Except StoreError StoreDraft :=
  match heap.deepCopy node with
  | some value => .ok { draft with default := some value }
  | none => .error .circularReference

/-- The schema against which the values of the store are checked: the one given, which has to
accept the default or have one of its own, or else the shape of the default. -/
def validator (draft : StoreDraft) : Except StoreError (Option Schema) :=
  match draft.schema, draft.default with
  | some schema, some value =>
    match schema.failures (some value) with
    | [] => .ok (some schema)
    | path :: paths => .error (.schema (.invalidDefault (path :: paths)))
  | some schema, none =>
    match schema.default? with
    | some _ => .ok (some schema)
    | none => .error (.noDefault schema.kindName draft.name)
  | none, some value =>
    match Schema.infer (some value) with
    | .ok schema => .ok (some schema)
    | .error cause => .error (.schema cause)
  | none, none => .ok none

/-- The default of the store: the one given, or else the schema's. -/
def effectiveDefault (draft : StoreDraft) : Option Value :=
  draft.default.or (draft.schema.bind Schema.default?)

/-- The store of a draft that is sound. -/
def prepare (draft : StoreDraft) : Except StoreError Store :=
  match draft.settings.validate with
  | .error cause => .error (.settings cause)
  | .ok _ =>
    match draft.validator with
    | .error e => .error e
    | .ok validator =>
      .ok ⟨draft.name, draft.schema, draft.effectiveDefault, validator, draft.settings,
        draft.onInvalid, draft.onConflict⟩

end StoreDraft

namespace Store

variable {μ : Type} [Medium μ]

/-- A session on a medium in which nothing has been loaded yet. -/
def start (store : Store) (medium : μ) : Session μ :=
  ⟨State.initial (store.default.getD .null), medium, []⟩

end Store

namespace StoreDraft

variable {μ : Type} [Medium μ]

/-- Open the store of a draft on a medium. -/
def openOn (draft : StoreDraft) (medium : μ) : Outcome μ Store :=
  match draft.prepare with
  | .error e => (.error e, ⟨State.initial .null, medium, []⟩)
  | .ok store =>
    let session := store.start medium
    if store.settings.lazyLoad then (.ok store, session)
    else
      match store.load Callbacks.passive session with
      | (.ok _, session) => (.ok store, session)
      | (.error e, session) => (.error e, session)

end StoreDraft

end ValidatedStore
