import ValidatedStore.Graph
import ValidatedStore.Inspect.Text
import ValidatedStore.Schema.Draft
import ValidatedStore.Settings

/-!
# Errors of stores

Every operation of a store that fails says why by one of these causes. A conflict and an invalid
value are reported as errors only when the store has no handler for them.
-/

namespace ValidatedStore

/-- Why an operation of a store failed. -/
inductive StoreError
  /-- A path leads nowhere in the stored value. -/
  | invalidPath (path : KeyPath) (fault : PathFault)
  /-- A default that its schema does not accept, or another unusable schema. -/
  | schema (cause : SchemaError)
  /-- A graph given as a default reaches a container twice. -/
  | circularReference
  /-- The medium failed. -/
  | storage (cause : StorageError)
  /-- The value at a path is not of the type that was asked for. -/
  | wrongType
  /-- A value fails the schema at these paths. -/
  | invalidValue (paths : List KeyPath)
  /-- The medium holds something else than the store last saw. -/
  | conflict (current baseline : Option String)
  /-- The settings cannot be used, read or written. -/
  | settings (cause : SettingsError)
  /-- A schema without a default, and no other default for the store. -/
  | noDefault (schemaKind name : String)

namespace StoreError

/-- Whether the error reports a conflict. -/
def isConflict : StoreError → Bool
  | .conflict _ _ => true
  | _ => false

/-- Whether the error reports an invalid value. -/
def isInvalidValue : StoreError → Bool
  | .invalidValue _ => true
  | _ => false

/-- The error in words. -/
def message : StoreError → String
  | .invalidPath path fault => fault.message path
  | .schema cause => cause.message
  | .circularReference => Heap.circularMessage
  | .storage cause => "storage error: " ++ cause.message
  | .wrongType => "serialization error: the value has another type"
  | .invalidValue paths => "invalid value at " ++ KeyPath.shownList paths
  | .conflict current baseline =>
    "conflict: medium holds " ++ Inspect.optional Inspect.text current ++ ", store last saw " ++
      Inspect.optional Inspect.text baseline
  | .settings cause => cause.message
  | .noDefault schemaKind name =>
    "invalid configuration: " ++ schemaKind ++ " schema for '" ++ name ++ "' has no default value"

end StoreError

end ValidatedStore
