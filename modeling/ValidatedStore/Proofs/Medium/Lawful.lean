import ValidatedStore.Medium.Faults
import ValidatedStore.Medium.Memory
import ValidatedStore.Proofs.Fields

/-!
# What a medium owes to its users

A medium holds a text or nothing under every key. A read that succeeds finds what is held, a write
that succeeds puts the text in its place, and a write that fails leaves it. The medium in memory
keeps these laws, and the switches that make its operations fail do not break them. A medium that
does not fail can be read and written at any moment.
-/

namespace ValidatedStore

/-- A medium with the text that it holds under each key, whether it can be read or not. -/
class LawfulMedium (μ : Type) [Medium μ] where
  /-- The text under a key. -/
  content : μ → String → Option String
  /-- A read that succeeds finds the text. -/
  content_of_read : ∀ {medium : μ} {key text?}, Medium.read medium key = .ok text? →
    content medium key = text?
  /-- A write that succeeds replaces the text. -/
  content_of_write : ∀ {medium after : μ} {key text result},
    Medium.write medium key text = (.ok result, after) → content after key = some text
  /-- A write that fails leaves the text. -/
  content_of_failed_write : ∀ {medium after : μ} {key text cause},
    Medium.write medium key text = (.error cause, after) → content after key = content medium key

instance : LawfulMedium Memory where
  content := Memory.read
  content_of_read h := Except.ok.inj h
  content_of_write h := by
    obtain ⟨_, rfl⟩ := Prod.mk.inj h
    exact Fields.find?_insert_self
  content_of_failed_write h := by cases (Prod.mk.inj h).1

/-- As long as a medium works, a key can be read and written, and it works on. -/
structure Reliable {μ : Type} [Medium μ] [LawfulMedium μ] (key : String) (works : μ → Prop) :
    Prop where
  /-- A read finds the text. -/
  read : ∀ {medium : μ}, works medium →
    Medium.read medium key = .ok (LawfulMedium.content medium key)
  /-- A write succeeds. -/
  write : ∀ {medium : μ} (text : String), works medium →
    ∃ after, Medium.write medium key text = (.ok (), after) ∧ works after

/-- The medium in memory never fails. -/
theorem reliable_memory (key : String) : Reliable key fun _ : Memory => True where
  read _ := rfl
  write _ _ := ⟨_, rfl, trivial⟩

/-- A read of a medium under switches is a read of the medium, unless it is refused. -/
theorem Faulty.read_eq {μ : Type} [Medium μ] (medium : Faulty μ) (key : String) :
    Medium.read medium key =
      if medium.refusesReads then .error (.io .readRefused) else Medium.read medium.inner key :=
  rfl

/-- A write to a medium under switches is a write to the medium, unless it is refused. -/
theorem Faulty.write_eq {μ : Type} [Medium μ] (medium : Faulty μ) (key text : String) :
    Medium.write medium key text =
      if medium.refusesWrites then (.error (.io .writeRefused), medium)
      else ((Medium.write medium.inner key text).1,
        { medium with inner := (Medium.write medium.inner key text).2 }) :=
  rfl

instance {μ : Type} [Medium μ] [LawfulMedium μ] : LawfulMedium (Faulty μ) where
  content medium := LawfulMedium.content medium.inner
  content_of_read {medium key text?} h := by
    rw [Faulty.read_eq] at h
    split at h
    next => cases h
    next => exact LawfulMedium.content_of_read h
  content_of_write {medium after key text result} h := by
    rw [Faulty.write_eq] at h
    split at h
    next => cases (Prod.mk.inj h).1
    next =>
      obtain ⟨hr, rfl⟩ := Prod.mk.inj h
      exact LawfulMedium.content_of_write (Prod.ext hr rfl)
  content_of_failed_write {medium after key text cause} h := by
    rw [Faulty.write_eq] at h
    split at h
    next =>
      obtain ⟨_, rfl⟩ := Prod.mk.inj h
      rfl
    next =>
      obtain ⟨hr, rfl⟩ := Prod.mk.inj h
      exact LawfulMedium.content_of_failed_write (Prod.ext hr rfl)

end ValidatedStore
