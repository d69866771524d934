import ValidatedStore.Proofs.Binary64
import ValidatedStore.Proofs.Schema.Built

/-!
# Bounds on whole numbers

A schema of numbers rounds a whole number to a double before it compares. The rounded number lies
on the wrong side of a bound only where it is the bound itself: then a number beyond the bound is
accepted. Every number within the bounds is accepted, and up to `2 ^ 53` nothing is rounded.
-/

namespace ValidatedStore

namespace Binary64.Extended

variable {low high bound : Extended} {x : Binary64} {n : Int}

/-- The bound is at most a whole number, both taken exactly. -/
def AtMost : Extended → Int → Prop
  | finite y, n => y.units ≤ n * unitsPerOne
  | infinite negative, _ => negative = true
  | undefined, _ => False

/-- The bound is at least a whole number, both taken exactly. -/
def AtLeast : Extended → Int → Prop
  | finite y, n => n * unitsPerOne ≤ y.units
  | infinite negative, _ => negative = false
  | undefined, _ => False

/-- The double nearest to a number reaches a lower bound if the number does, or if it is that
bound. -/
theorem le_finite_iff (h : x.IsNearest (n * unitsPerOne)) :
    bound.le (finite x) = true ↔ bound.AtMost n ∨ bound = finite x := by
  cases bound with
  | finite y => rw [le, decide_eq_true_eq, h.units_le_iff, AtMost, finite.injEq]
  | infinite negative => cases negative <;> simp [le, AtMost]
  | undefined => simp [le, AtMost]

/-- The double nearest to a number reaches an upper bound if the number does, or if it is that
bound. -/
theorem finite_le_iff (h : x.IsNearest (n * unitsPerOne)) :
    (finite x).le bound = true ↔ bound.AtLeast n ∨ bound = finite x := by
  cases bound with
  | finite y => rw [le, decide_eq_true_eq, h.le_units_iff, AtLeast, finite.injEq]
  | infinite negative => cases negative <;> simp [le, AtLeast]
  | undefined => simp [le, AtLeast]

/-- Between bounds in order no number lies beyond both. -/
theorem atMost_or_atLeast (hle : low.le high = true) : low.AtMost n ∨ high.AtLeast n := by
  cases low with
  | undefined => cases high <;> simp [le] at hle
  | infinite negative =>
    cases negative with
    | true => exact .inl rfl
    | false =>
      refine .inr ?_
      cases high with
      | undefined => simp [le] at hle
      | infinite negative => cases negative <;> simp_all [le, AtLeast]
      | finite z => simp [le] at hle
  | finite y =>
    cases high with
    | undefined => simp [le] at hle
    | infinite negative => cases negative <;> simp_all [le, AtLeast]
    | finite z =>
      have hunits : y.units ≤ z.units := by simpa [le] using hle
      rcases Int.le_total y.units (n * unitsPerOne) with hbelow | habove
      · exact .inl hbelow
      · exact .inr (Int.le_trans habove hunits)

/-- A bound that is the whole number itself is on both sides of it. -/
theorem atMost_and_atLeast_of_exact (h : x.units = n * unitsPerOne) :
    (finite x).AtMost n ∧ (finite x).AtLeast n :=
  ⟨Int.le_of_eq h, Int.le_of_eq h.symm⟩

end Binary64.Extended

open Binary64 (Extended unitsPerOne)

variable {rule : NumberRule} {draft : NumberDraft} {schema : Schema} {x : Binary64} {n : Int}

/-- A whole number lies within the bounds of a draft, which are compared with it exactly. -/
def NumberDraft.Admits (draft : NumberDraft) (n : Int) : Prop :=
  draft.min.AtMost n ∧ draft.max.AtLeast n

/-- A rule accepts a whole number unless it lies beyond a bound that it is not rounded to; the
rounded number never has a fractional part. -/
theorem NumberRule.accepts_integer_iff (hn : -2 ^ 63 ≤ n ∧ n < 2 ^ 64)
    (hx : Extended.ofInt n = .finite x) (hnearest : x.IsNearest (n * unitsPerOne))
    (hintegral : x.isIntegral = true) :
    rule.accepts (.integer n hn) = true ↔
      (rule.min.AtMost n ∨ rule.min = .finite x) ∧
        (rule.max.AtLeast n ∨ rule.max = .finite x) := by
  have hflag : (!rule.integral || Extended.isIntegral (.finite x)) = true := by
    rw [Extended.isIntegral, hintegral, Bool.or_true]
  rw [NumberRule.accepts, Number.toExtended, hx, hflag, Bool.and_true, Bool.and_eq_true,
    Extended.le_finite_iff hnearest, Extended.finite_le_iff hnearest]

/-- A draft is built if its bounds are in order and the schema accepts its default. -/
theorem NumberDraft.build_eq_ok_iff :
    draft.build = .ok schema ↔
      draft.min.le draft.max = true ∧
        schema = .number ⟨draft.min, draft.max, draft.integral⟩ (draft.fallback.getD .zero) ∧
          schema.accepts schema.default? = true := by
  rw [NumberDraft.build]
  split
  next hle =>
    rw [Schema.checked_eq_ok_iff]
    constructor
    · rintro ⟨rfl, hdefault⟩
      exact ⟨hle, rfl, hdefault⟩
    · rintro ⟨-, rfl, hdefault⟩
      exact ⟨rfl, hdefault⟩
  next hle => exact ⟨fun h => (by cases h), fun h => absurd h.1 hle⟩

/-- The schema of a draft accepts a whole number unless the number lies beyond a bound that it is
not rounded to. -/
theorem NumberDraft.accepts_integer_iff (hb : draft.build = .ok schema)
    (hn : -2 ^ 63 ≤ n ∧ n < 2 ^ 64) (hx : Extended.ofInt n = .finite x)
    (hnearest : x.IsNearest (n * unitsPerOne)) (hintegral : x.isIntegral = true) :
    schema.accepts (some (.number (.integer n hn))) = true ↔
      (draft.min.AtMost n ∨ draft.min = .finite x) ∧
        (draft.max.AtLeast n ∨ draft.max = .finite x) := by
  obtain ⟨-, rfl, -⟩ := NumberDraft.build_eq_ok_iff.mp hb
  rw [Schema.accepts_number_iff]
  constructor
  · rintro ⟨number, hnumber, hrule⟩
    cases hnumber
    exact (NumberRule.accepts_integer_iff hn hx hnearest hintegral).mp hrule
  · exact fun h => ⟨_, rfl, (NumberRule.accepts_integer_iff hn hx hnearest hintegral).mpr h⟩

namespace Schema

/-- Whether the bounds of a schema of numbers are exact on a whole number of the 64-bit ranges is
decided by the double nearest to the number: they are, unless it is a bound beyond which the number
lies. Up to `2 ^ 53` they always are. Refusing fractional parts makes no difference. -/
theorem bounds_exact_iff (hb : draft.build = .ok schema) (hn : -2 ^ 63 ≤ n ∧ n < 2 ^ 64) :
    ∃ x : Binary64, Extended.ofInt n = .finite x ∧ x.IsNearest (n * unitsPerOne) ∧
      ((schema.accepts (some (.number (.integer n hn))) = true ↔ draft.Admits n) ↔
        (draft.min = .finite x → draft.min.AtMost n) ∧
          (draft.max = .finite x → draft.max.AtLeast n)) ∧
      (n.natAbs ≤ 2 ^ 53 →
        (schema.accepts (some (.number (.integer n hn))) = true ↔ draft.Admits n)) := by
  obtain ⟨x, hx, hnearest, hintegral, hexact⟩ := Binary64.exists_ofInt (n := n) (by omega)
  have haccepts := NumberDraft.accepts_integer_iff hb hn hx hnearest hintegral
  have hordered : draft.min.AtMost n ∨ draft.max.AtLeast n :=
    Extended.atMost_or_atLeast (NumberDraft.build_eq_ok_iff.mp hb).1
  have hbounds : (draft.min = .finite x → draft.min.AtMost n) ∧
      (draft.max = .finite x → draft.max.AtLeast n) →
        (schema.accepts (some (.number (.integer n hn))) = true ↔ draft.Admits n) := by
    rintro ⟨hmin, hmax⟩
    rw [haccepts]
    exact ⟨fun h => ⟨h.1.elim id hmin, h.2.elim id hmax⟩, fun h => ⟨.inl h.1, .inl h.2⟩⟩
  refine ⟨x, hx, hnearest, ⟨fun h => ⟨fun hmin => ?_, fun hmax => ?_⟩, hbounds⟩, fun hsmall => ?_⟩
  · -- A number below the lower bound is not above the upper one, so that it would be accepted.
    rcases hordered with hlow | hhigh
    · exact hlow
    · exact (h.mp (haccepts.mpr ⟨.inr hmin, .inl hhigh⟩)).1
  · rcases hordered with hlow | hhigh
    · exact (h.mp (haccepts.mpr ⟨.inl hlow, .inr hmax⟩)).2
    · exact hhigh
  · obtain ⟨hmost, hleast⟩ := Extended.atMost_and_atLeast_of_exact (hexact hsmall)
    exact hbounds ⟨fun hmin => hmin ▸ hmost, fun hmax => hmax ▸ hleast⟩

/-- The double `2 ^ 53`, past which whole numbers are rounded, counted in twos. -/
def lastExact : Binary64 := ⟨false, 2 ^ 53 / 2, 1075, by decide, by decide, .inr (by decide)⟩

/-- Numbers without a fractional part from zero up to `2 ^ 53`. -/
def exactNumbers : NumberDraft where
  min := .finite (.zero false)
  max := .finite lastExact
  integral := true

/-- The schema of these numbers. -/
def exactSchema : Schema := .number ⟨.finite (.zero false), .finite lastExact, true⟩ .zero

theorem exactNumbers_build : exactNumbers.build = .ok exactSchema := by
  have hzero : Number.zero.toExtended = .finite (.zero false) := by decide +kernel
  have hle : Extended.le (.finite (.zero false)) (.finite lastExact) = true := by decide +kernel
  refine NumberDraft.build_eq_ok_iff.mpr ⟨hle, rfl, accepts_number_iff.mpr ⟨.zero, rfl, ?_⟩⟩
  rw [NumberRule.accepts, hzero]
  decide +kernel

/-- The number after `2 ^ 53` lies halfway to the next double and is rounded down. -/
theorem ofInt_after_lastExact : Extended.ofInt (2 ^ 53 + 1) = .finite lastExact := by
  decide +kernel

theorem not_atLeast_after_lastExact : ¬(Extended.finite lastExact).AtLeast (2 ^ 53 + 1) := by
  have hbeyond : ¬(2 ^ 53 + 1 : Int) * unitsPerOne ≤ lastExact.units := by decide +kernel
  exact hbeyond

/-- The bounds are exact on the upper bound itself; on the next number they are not, since it is
rounded to the bound. -/
theorem bounds_exact_iff_of_upper_bound :
    exactNumbers.build = .ok exactSchema ∧
      ((-2 : Int) ^ 63 ≤ 2 ^ 53 ∧ (2 : Int) ^ 53 < 2 ^ 64) ∧
      (exactSchema.accepts (some (.number (.integer (2 ^ 53) (by decide)))) = true ↔
        exactNumbers.Admits (2 ^ 53)) ∧
      ∃ x : Binary64, exactNumbers.max = .finite x ∧
        x.IsNearest ((2 ^ 53 + 1 : Int) * unitsPerOne) ∧
        ¬(exactSchema.accepts (some (.number (.integer (2 ^ 53 + 1) (by decide)))) = true ↔
          exactNumbers.Admits (2 ^ 53 + 1)) := by
  obtain ⟨-, -, -, -, hsmall⟩ := bounds_exact_iff (n := 2 ^ 53) exactNumbers_build (by decide)
  obtain ⟨x, hx, hnearest, hiff, -⟩ :=
    bounds_exact_iff (n := 2 ^ 53 + 1) exactNumbers_build (by decide)
  obtain rfl : lastExact = x := Extended.finite.inj (ofInt_after_lastExact.symm.trans hx)
  exact ⟨exactNumbers_build, by decide, hsmall (by decide), lastExact, rfl, hnearest,
    fun h => not_atLeast_after_lastExact ((hiff.mp h).2 rfl)⟩

/-- A number beyond the upper bound is accepted: `2 ^ 53 + 1` under the bound `2 ^ 53`. -/
theorem accepts_beyond_upper_bound :
    exactNumbers.build = .ok exactSchema ∧
      exactSchema.accepts (some (.number (.integer (2 ^ 53 + 1) (by decide)))) = true ∧
      ¬exactNumbers.Admits (2 ^ 53 + 1) := by
  refine ⟨exactNumbers_build, accepts_number_iff.mpr ⟨_, rfl, ?_⟩,
    fun h => not_atLeast_after_lastExact h.2⟩
  rw [NumberRule.accepts, Number.toExtended, ofInt_after_lastExact]
  decide +kernel

end Schema

end ValidatedStore
