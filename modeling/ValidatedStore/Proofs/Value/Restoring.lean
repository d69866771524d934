import ValidatedStore.Proofs.Fields
import ValidatedStore.Repair

/-!
# Restoring inside a container

A restoration at one key writes or drops one entry of an object. At a longer path it restores
inside what the first key leads to, and puts the result in its place. A repair is a list of
restorations, each with what the template has for the path.
-/

namespace ValidatedStore

namespace Value

variable {entries : List (String × Value)} {container inner : Value} {key next : String}
  {rest : KeyPath}

/-- One key of an object is written or dropped. -/
theorem restore_object_singleton (replacement : Option Value) :
    (Value.object entries).restore [key] replacement =
      .ok (.object (Fields.assign key replacement entries)) := by
  cases replacement <;> rfl

/-- A longer path is edited inside what its first key leads to. -/
theorem edit_cons {α : Type} (change : Value → String → Except PathFault (Value × α))
    (hc : container.child key = .ok (some inner)) :
    edit change container (key :: next :: rest) =
      match edit change inner (next :: rest) with
      | .ok (edited, result) => .ok (container.putChild key edited, result)
      | .error fault => .error fault.below := by
  rw [edit, hc]
  dsimp only
  cases edit change inner (next :: rest) <;> rfl

/-- A longer path is restored inside what its first key leads to. -/
theorem restore_cons (hc : container.child key = .ok (some inner)) (replacement : Option Value) :
    container.restore (key :: next :: rest) replacement =
      match inner.restore (next :: rest) replacement with
      | .ok restored => .ok (container.putChild key restored)
      | .error fault => .error fault.below := by
  cases replacement with
  | some new =>
    simp only [restore, overwrite, set, edit_cons _ hc]
    cases edit (writeChild new) inner (next :: rest) <;> rfl
  | none =>
    simp only [restore, clear, delete, edit_cons _ hc]
    cases edit removeChild inner (next :: rest) <;> rfl

/-- Restore a list of paths one after another, each with what a function has for it. -/
def restoreAll (at? : KeyPath → Option Value) :
    Value → List KeyPath → Except (KeyPath × PathFault) Value
  | value, [] => .ok value
  | value, path :: rest =>
    match value.restore path (at? path) with
    | .ok restored => restoreAll at? restored rest
    | .error fault => .error (path, fault)

variable {at? : KeyPath → Option Value}

/-- A repair restores every path with the template's content. -/
theorem repair_eq_restoreAll (template : Template) (value : Value) (paths : List KeyPath) :
    value.repair template paths = value.restoreAll template.defaultAt paths := by
  induction paths generalizing value with
  | nil => rfl
  | cons path rest ih =>
    rw [repair, restoreAll]
    cases value.restore path (template.defaultAt path) with
    | ok restored => exact ih restored
    | error fault => rfl

/-- Functions that agree on the paths restore the same. -/
theorem restoreAll_congr {other? : KeyPath → Option Value} {paths : List KeyPath} {value : Value}
    (h : ∀ path ∈ paths, at? path = other? path) :
    value.restoreAll at? paths = value.restoreAll other? paths := by
  induction paths generalizing value with
  | nil => rfl
  | cons path rest ih =>
    rw [restoreAll, restoreAll, h path List.mem_cons_self]
    cases value.restore path (other? path) with
    | ok restored => exact ih fun place hm => h place (List.mem_cons_of_mem _ hm)
    | error fault => rfl

end Value

end ValidatedStore
