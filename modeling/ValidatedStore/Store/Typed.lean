import ValidatedStore.Store.Editing

/-!
# Typed reading

A part of the value can be asked for as a truth value, a number of some range, a text, or a list
or an optional one of these. Whole numbers are read as doubles where a double is asked for, and
never the other way round.
-/

namespace ValidatedStore

/-- Types of which some values have a reading. -/
class Readable (α : Type) where
  /-- The reading of a value, if it has one. -/
  ofValue? : Value → Option α

instance : Readable Bool where
  ofValue?
    | .bool b => some b
    | _ => none

instance : Readable UInt8 where
  ofValue?
    | .number n => n.toUnsigned64?.bind fun k => if k < 2 ^ 8 then some (UInt8.ofNat k) else none
    | _ => none

instance : Readable UInt64 where
  ofValue?
    | .number n => n.toUnsigned64?.map UInt64.ofNat
    | _ => none

instance : Readable Int64 where
  ofValue?
    | .number n => n.toSigned64?.map Int64.ofInt
    | _ => none

instance : Readable Binary64 where
  ofValue?
    | .number n =>
      match n.toExtended with
      | .finite x => some x
      | _ => none
    | _ => none

instance : Readable String where
  ofValue?
    | .string s => some s
    | _ => none

instance {α : Type} [Readable α] : Readable (List α) where
  ofValue?
    | .array items => items.mapM Readable.ofValue?
    | _ => none

instance {α : Type} [Readable α] : Readable (Option α) where
  ofValue?
    | .null => some none
    | value => (Readable.ofValue? value).map some

namespace Store

/-- The part at a selector as a value of another type; none when only the last key is missing. -/
def getAs (α : Type) [Readable α] {μ : Type} [Medium μ] (store : Store) (selector : Selector)
    (session : Session μ) : Except StoreError (Option α) :=
  match store.get selector session with
  | .error e => .error e
  | .ok none => .ok none
  | .ok (some part) =>
    match Readable.ofValue? part with
    | some reading => .ok (some reading)
    | none => .error .wrongType

end Store

end ValidatedStore
