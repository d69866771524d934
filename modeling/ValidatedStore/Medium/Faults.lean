import ValidatedStore.Medium

/-!
# Media that refuse

A medium under switches that make every read or every write fail, as a broken disk would. What
the medium holds is untouched by a refused operation.
-/

namespace ValidatedStore

/-- A medium together with switches that make its operations fail. -/
structure Faulty (μ : Type) where
  /-- The medium itself. -/
  inner : μ
  /-- Whether reads are refused. -/
  refusesReads : Bool := false
  /-- Whether writes are refused. -/
  refusesWrites : Bool := false

instance {μ : Type} [Medium μ] : Medium (Faulty μ) where
  read medium key :=
    if medium.refusesReads then .error (.io .readRefused) else Medium.read medium.inner key
  write medium key text :=
    if medium.refusesWrites then (.error (.io .writeRefused), medium)
    else
      let (result, inner) := Medium.write medium.inner key text
      (result, { medium with inner := inner })

end ValidatedStore
