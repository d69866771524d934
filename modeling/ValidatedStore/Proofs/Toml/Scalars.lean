import Mathlib.Data.List.TakeDrop
import ValidatedStore.Proofs.Decimal.Digits
import ValidatedStore.Toml.Reader

/-!
# TOML numbers and truth values are read as they are written

The digits of a whole number of the signed 64-bit range are a token by themselves: they are neither
a date nor a time, have no base or sign, and do not begin with a superfluous zero. A token ends
before the end of its line.
-/

namespace ValidatedStore

namespace Toml

variable {ds token rest : List Char} {c d : Char} {p : Char → Bool}

/-- What satisfies a condition up to a character that does not is split off there. -/
theorem span_append (hp : ∀ c ∈ token, p c = true) (hd : p d = false) :
    (token ++ d :: rest).span p = (token, d :: rest) := by
  have hneg : ¬p d = true := by simp [hd]
  rw [List.span_eq_takeWhile_dropWhile, List.takeWhile_append_of_pos hp,
    List.dropWhile_append_of_pos hp, List.takeWhile_cons_of_neg hneg,
    List.dropWhile_cons_of_neg hneg, List.append_nil]

theorem digitValue?_of_isDigit (h : c.isDigit = true) :
    digitValue? c = some (Decimal.digitValue c) := by
  rw [Char.isDigit, Bool.and_eq_true, decide_eq_true_eq, decide_eq_true_eq] at h
  exact if_pos h

theorem isDigitOf_ten (h : c.isDigit = true) : isDigitOf 10 c = true := by
  rw [isDigitOf, digitValue?_of_isDigit h, Option.any_some]
  exact decide_eq_true (Decimal.digitValue_of_isDigit h).1

/-- Digits without underscores are left as they are. -/
theorem ungroup_of_digits (hne : ds ≠ []) (hall : ∀ c ∈ ds, c.isDigit = true) :
    ungroup 10 false ds = some ds := by
  have hafter : ∀ ds : List Char, (∀ c ∈ ds, c.isDigit = true) → ungroup 10 true ds = some ds := by
    intro ds hall
    induction ds with
    | nil => rfl
    | cons c ds ih =>
      obtain ⟨hc, hds⟩ := List.forall_mem_cons.mp hall
      rw [ungroup, if_pos (isDigitOf_ten hc), ih hds, Option.map_some]
  obtain ⟨c, ds, rfl⟩ := List.exists_cons_of_ne_nil hne
  obtain ⟨hc, hds⟩ := List.forall_mem_cons.mp hall
  rw [ungroup, if_pos (isDigitOf_ten hc), hafter ds hds, Option.map_some]

/-- Decimal digits spell the same number here as elsewhere. -/
theorem valueOf_of_digits (hall : ∀ c ∈ ds, c.isDigit = true) :
    valueOf 10 ds = Decimal.ofDigits ds := by
  induction ds using List.reverseRecOn with
  | nil => rfl
  | append_singleton front c ih =>
    have hc := hall c (by simp)
    have hfront := ih fun d hd => hall d (List.mem_append_left _ hd)
    simp only [valueOf, Decimal.ofDigits] at hfront
    simp [valueOf, Decimal.ofDigits, hfront, digitValue?_of_isDigit hc]

/-- The digits of a number do not begin with a superfluous zero. -/
theorem wholeDigits?_digits (n : Nat) :
    wholeDigits? (Decimal.digits n) = some (Decimal.digits n) := by
  have hall : ∀ c ∈ Decimal.digits n, c.isDigit = true := fun _ => Decimal.isDigit_of_mem_digits
  rw [wholeDigits?, ungroup_of_digits (Decimal.digits_ne_nil n) hall]
  split
  next second more heq =>
    rcases Nat.eq_zero_or_pos n with rfl | hpos
    · cases heq
    · obtain ⟨c, rest, hdigits, hc⟩ := Decimal.exists_digits_eq_cons hpos
      rw [hdigits] at heq
      exact absurd (List.cons.inj (Option.some.inj heq)).1 hc
  next => rfl

/-- Digits have no sign. -/
theorem splitSign_of_digits (hall : ∀ c ∈ ds, c.isDigit = true) : splitSign ds = (false, ds) := by
  unfold splitSign
  split
  next => exact absurd (hall '-' List.mem_cons_self) (by decide)
  next => exact absurd (hall '+' List.mem_cons_self) (by decide)
  next => rfl

/-- The digits of a number of the signed 64-bit range are read as the number. -/
theorem integer?_digits {n : Nat} (h : n < 2 ^ 63) :
    integer? (Decimal.digits n) = some (n : Int) := by
  have hall : ∀ c ∈ Decimal.digits n, c.isDigit = true := fun _ => Decimal.isDigit_of_mem_digits
  have hmark : ∀ mark more, mark.isDigit = false → Decimal.digits n ≠ '0' :: mark :: more := by
    intro mark more hmark heq
    have hdigit := hall mark (by simp [heq])
    rw [hmark] at hdigit
    cases hdigit
  unfold integer?
  split
  next heq => exact absurd heq (hmark 'x' _ (by decide))
  next heq => exact absurd heq (hmark 'o' _ (by decide))
  next heq => exact absurd heq (hmark 'b' _ (by decide))
  next =>
    rw [splitSign_of_digits hall]
    dsimp only
    rw [wholeDigits?_digits, Option.map_some, valueOf_of_digits hall, Decimal.ofDigits_digits,
      if_neg (by decide), Option.filter_some, if_pos]
    simp only [Bool.and_eq_true, decide_eq_true_eq]
    omega

/-- Digits are no date and no time. -/
theorem isDatetime_of_digits (hall : ∀ c ∈ ds, c.isDigit = true) : isDatetime ds = false := by
  have hdate : afterDate? ds = none := by
    unfold afterDate?
    split
    next => exact absurd (hall '-' (by simp)) (by decide)
    next => rfl
  have htime : afterTime? ds = none := by
    unfold afterTime?
    split
    next => exact absurd (hall ':' (by simp)) (by decide)
    next => rfl
  simp [isDatetime, hdate, htime]

theorem scalar?_digits {n : Nat} (h : n < 2 ^ 63) :
    scalar? (Decimal.digits n) = some (.integer n) := by
  have hall : ∀ c ∈ Decimal.digits n, c.isDigit = true := fun _ => Decimal.isDigit_of_mem_digits
  have htrue : Decimal.digits n ≠ "true".toList := fun heq =>
    absurd (hall 't' (by simp [heq])) (by decide)
  have hfalse : Decimal.digits n ≠ "false".toList := fun heq =>
    absurd (hall 'f' (by simp [heq])) (by decide)
  rw [scalar?, if_neg htrue, if_neg hfalse, isDatetime_of_digits hall, integer?_digits h]
  rfl

/-- A token ends before the end of its line. -/
theorem spanToken_append (ht : ∀ c ∈ token, isTokenChar c = true) :
    spanToken (token ++ '\n' :: rest) = (token, '\n' :: rest) := by
  rw [spanToken, span_append ht (by decide)]
  rfl

/-- A text that starts with a character of tokens has a token there. -/
theorem readValue_token (hc : isTokenChar c = true) (fuel room : Nat) :
    readValue (fuel + 1) room (c :: rest) =
      (scalar? (spanToken (c :: rest)).1).map fun value => (value, (spanToken (c :: rest)).2) := by
  rw [readValue.eq_def]
  dsimp only
  split
  next heq => exact absurd ((List.cons.inj heq).1 ▸ hc) (by decide)
  next heq => exact absurd ((List.cons.inj heq).1 ▸ hc) (by decide)
  next heq => exact absurd ((List.cons.inj heq).1 ▸ hc) (by decide)
  next heq => exact absurd ((List.cons.inj heq).1 ▸ hc) (by decide)
  next heq => exact absurd ((List.cons.inj heq).1 ▸ hc) (by decide)
  next heq => exact absurd ((List.cons.inj heq).1 ▸ hc) (by decide)
  next => rfl

end Toml

end ValidatedStore
