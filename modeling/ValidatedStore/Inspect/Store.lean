import ValidatedStore.Inspect.Schema
import ValidatedStore.Store.Opening

/-!
# Inspected stores

A store is shown by its name, its settings and whether a save is put off; a draft by everything
it was given, of the handlers only whether they are there.
-/

namespace ValidatedStore

namespace Inspect

/-- Settings. -/
def settings (s : Settings) : String :=
  record "StoreConfig" [
    ("delay_ms", toString s.delayMs.toNat),
    ("lazy_load", bool s.lazyLoad),
    ("strict_load", bool s.strictLoad),
    ("secure", bool s.secure),
    ("auto_fix", bool s.autoFix),
    ("path_separator", text s.pathSeparator)]

/-- A store in a state. -/
def store (s : Store) (state : State) : String :=
  record "Store" [
    ("name", text s.name),
    ("config", settings s.settings),
    ("pending_save", bool state.pending)]

/-- A draft of a store. -/
def draft (d : StoreDraft) : String :=
  record "StoreBuilder" [
    ("name", text d.name),
    ("schema", optional schema d.schema),
    ("default", optional value d.default),
    ("config", settings d.settings),
    ("on_invalid", bool d.onInvalid.isSome),
    ("on_conflict", bool d.onConflict.isSome)]

end Inspect

end ValidatedStore
