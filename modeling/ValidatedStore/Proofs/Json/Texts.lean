import ValidatedStore.Json.Printer
import ValidatedStore.Json.Reader

/-!
# Quoted texts are read as they are written

Every character has one written form inside quotes, and reading takes off one form at a time, so a
quoted text is read back character by character up to its closing quote.
-/

namespace ValidatedStore

namespace Json

/-- A character in front of what is read of the rest. -/
def withChar (c : Char) : Option (List Char × List Char) → Option (List Char × List Char)
  | none => none
  | some (text, after) => some (c :: text, after)

/-- The four digits of a control character spell its code. -/
theorem hexUnit?_control {n : Nat} (h : n < 32) :
    hexUnit? '0' '0' (hexDigit (n / 16)) (hexDigit (n % 16)) = some n := by
  have hall : ∀ n < 32, hexUnit? '0' '0' (hexDigit (n / 16)) (hexDigit (n % 16)) = some n := by
    decide
  exact hall n h

/-- A control character written as a code is read back. -/
theorem readQuoted_control {c : Char} (h : c.toNat < 32) (tail : List Char) :
    readQuoted (['\\', 'u', '0', '0', hexDigit (c.toNat / 16), hexDigit (c.toNat % 16)] ++ tail) =
      withChar c (readQuoted tail) := by
  have hhigh : isHighSurrogate c.toNat = false := by
    simp only [isHighSurrogate, Bool.and_eq_false_iff, decide_eq_false_iff_not]
    omega
  have hlow : isLowSurrogate c.toNat = false := by
    simp only [isLowSurrogate, Bool.and_eq_false_iff, decide_eq_false_iff_not]
    omega
  simp only [List.cons_append, List.nil_append]
  rw [readQuoted, hexUnit?_control h]
  simp only [hhigh, hlow, Bool.false_eq_true, if_false, Char.ofNat_toNat]
  cases readQuoted tail <;> rfl

/-- A character that needs no escape is read as itself. -/
theorem readQuoted_plain {c : Char} (hquote : c ≠ '"') (hslash : c ≠ '\\') (h : ¬ c.toNat < 32)
    (tail : List Char) : readQuoted (c :: tail) = withChar c (readQuoted tail) := by
  rw [readQuoted.eq_def]
  split
  next heq => cases heq
  next heq => exact absurd (List.cons.inj heq).1 hquote
  next heq => exact absurd (List.cons.inj heq).1 hslash
  next heq => exact absurd (List.cons.inj heq).1 hslash
  next heq =>
    obtain ⟨rfl, rfl⟩ := List.cons.inj heq
    rw [if_neg h]
    cases readQuoted tail <;> rfl

/-- The written form of a character is read as the character. -/
theorem readQuoted_escapedChar (c : Char) (tail : List Char) :
    readQuoted (escapedChar c ++ tail) = withChar c (readQuoted tail) := by
  unfold escapedChar
  split
  case h_8 hquote hslash _ _ _ _ _ =>
    split
    next h => exact readQuoted_control h tail
    next h => exact readQuoted_plain hquote hslash h tail
  all_goals
    simp only [List.cons_append, List.nil_append]
    rw [readQuoted]
    · cases readQuoted tail <;> rfl
    · intros
      simp_all

/-- A quoted text is read up to its closing quote. -/
theorem readQuoted_flatMap (cs rest : List Char) :
    readQuoted (cs.flatMap escapedChar ++ '"' :: rest) = some (cs, rest) := by
  induction cs with
  | nil => rfl
  | cons c cs ih =>
    rw [List.flatMap_cons, List.append_assoc, readQuoted_escapedChar, ih]
    rfl

end Json

end ValidatedStore
