import ValidatedStore.Decimal.Shortest
import ValidatedStore.Proofs.Decimal.Digits

/-!
# Decimals that read back

Reading a decimal depends on its value alone, not on how the value is split into a coefficient and
a power of ten. The shortest decimal of a double reads back as the double: where no short one does,
the exact value is within the range and is read without rounding.
-/

namespace ValidatedStore

namespace Binary64

variable {num den t : Nat}

/-- Rounding a quotient depends on its value alone. -/
theorem roundHalfEven_mul_right (num den : Nat) (ht : 0 < t) :
    roundHalfEven (num * t) (den * t) = roundHalfEven num den := by
  have hrest : 2 * (num % den * t) = 2 * (num % den) * t := (Nat.mul_assoc _ _ _).symm
  have hlt : 2 * (num % den) * t < den * t ↔ 2 * (num % den) < den :=
    Nat.mul_lt_mul_right ht
  have hgt : den * t < 2 * (num % den) * t ↔ den < 2 * (num % den) :=
    Nat.mul_lt_mul_right ht
  rw [roundHalfEven, roundHalfEven, Nat.mul_div_mul_right _ _ ht, Nat.mul_mod_mul_right, hrest]
  simp only [hlt, hgt]

theorem nearest?_mul_right (negative : Bool) (num den : Nat) (ht : 0 < t) :
    nearest? negative (num * t) (den * t) = nearest? negative num den := by
  have hscale : scaleFor (num * t) (den * t) = scaleFor num den := by
    rw [scaleFor, scaleFor, Nat.mul_div_mul_right _ _ ht]
  have hden : den * t * 2 ^ scaleFor num den = den * 2 ^ scaleFor num den * t :=
    Nat.mul_right_comm _ _ _
  rw [nearest?, nearest?, hscale, hden, roundHalfEven_mul_right _ _ ht]

theorem nearest_eq_elim (negative : Bool) (num den : Nat) :
    Extended.nearest negative num den =
      (nearest? negative num den).elim (.infinite negative) .finite := by
  unfold Extended.nearest
  cases nearest? negative num den <;> rfl

/-- The nearest double of a quotient depends on its value alone. -/
theorem nearest_mul_right (negative : Bool) (num den : Nat) (ht : 0 < t) :
    Extended.nearest negative (num * t) (den * t) = Extended.nearest negative num den := by
  rw [nearest_eq_elim, nearest_eq_elim, nearest?_mul_right _ _ _ ht]

theorem log2_mul_two_pow {n : Nat} (k : Nat) (hlow : 2 ^ 52 ≤ n) (hhigh : n < 2 ^ 53) :
    Nat.log2 (n * 2 ^ k) = 52 + k := by
  have hpos : 0 < 2 ^ k := Nat.two_pow_pos k
  have hprod : n * 2 ^ k ≠ 0 := Nat.mul_ne_zero (by omega) (Nat.ne_of_gt hpos)
  rw [Nat.log2_eq_iff hprod, Nat.add_right_comm, Nat.pow_add, Nat.pow_add]
  exact ⟨Nat.mul_le_mul_right _ hlow, Nat.mul_lt_mul_of_pos_right hhigh hpos⟩

/-- The scale of a double is the one on which its magnitude has 53 digits, or the least. -/
theorem scaleFor_magnitude (x : Binary64) (hne : x.significand ≠ 0) :
    scaleFor x.magnitude 1 = x.scale := by
  rw [scaleFor, Nat.div_one, magnitude]
  rcases x.normalized with hscale | hge
  · have hlog := (Nat.log2_lt hne).mpr x.significand_lt
    rw [hscale, Nat.pow_zero, Nat.mul_one]
    omega
  · rw [log2_mul_two_pow x.scale hge x.significand_lt]
    omega

theorem roundHalfEven_one (n : Nat) : roundHalfEven n 1 = n := by
  rw [roundHalfEven, Nat.div_one, Nat.mod_one]
  rfl

theorem ofRounded?_self (x : Binary64) :
    ofRounded? x.negative x.significand x.scale = some x := by
  have hself : x.significand < 2 ^ 53 ∧ x.scale ≤ 2045 ∧ (x.scale = 0 ∨ 2 ^ 52 ≤ x.significand) :=
    ⟨x.significand_lt, x.scale_le, x.normalized⟩
  unfold ofRounded?
  exact dif_pos hself

/-- A double is the nearest one to its own magnitude. -/
theorem nearest_magnitude (x : Binary64) (hne : x.significand ≠ 0) :
    Extended.nearest x.negative x.magnitude 1 = .finite x := by
  have hround : roundHalfEven x.magnitude (1 * 2 ^ x.scale) = x.significand := by
    rw [magnitude, roundHalfEven_mul_right _ _ (Nat.two_pow_pos _), roundHalfEven_one]
  rw [nearest_eq_elim, nearest?, scaleFor_magnitude x hne, hround, ofRounded?_self]
  rfl

end Binary64

namespace Decimal

/-- Moving a power of ten into the exponent keeps the magnitude. -/
theorem magnitude_mul_pow {c : Nat} (hc : 0 < c) (k : Nat) (e : Int) :
    magnitude ⟨c * 10 ^ k, e⟩ = magnitude ⟨c, e + k⟩ := by
  rw [magnitude, magnitude]
  simp only [digits_mul_pow hc, List.length_append, List.length_replicate]
  omega

/-- Moving a power of ten into the exponent keeps the quotient that is rounded. -/
theorem nearest_mul_pow (negative : Bool) (c k : Nat) (e : Int) :
    Binary64.Extended.nearest negative (c * 10 ^ k * 10 ^ e.toNat * Binary64.unitsPerOne)
        (10 ^ (-e).toNat) =
      Binary64.Extended.nearest negative (c * 10 ^ (e + k).toNat * Binary64.unitsPerOne)
        (10 ^ (-(e + k)).toNat) := by
  have hpow : ∀ n, 0 < 10 ^ n := fun n => Nat.pow_pos (by decide)
  by_cases he : 0 ≤ e
  · have hsum : (e + k).toNat = k + e.toNat := by omega
    have hdown : (-e).toNat = 0 := by omega
    have hdown' : (-(e + k)).toNat = 0 := by omega
    rw [hsum, hdown, hdown', Nat.pow_add, Nat.mul_assoc c]
  by_cases hk : e + k ≤ 0
  · have hup : e.toNat = 0 := by omega
    have hup' : (e + k).toNat = 0 := by omega
    have hdown : (-e).toNat = (-(e + k)).toNat + k := by omega
    have hnum : c * 10 ^ k * 10 ^ 0 * Binary64.unitsPerOne =
        c * 10 ^ 0 * Binary64.unitsPerOne * 10 ^ k := by
      rw [Nat.mul_right_comm c, Nat.mul_right_comm _ (10 ^ k)]
    rw [hup, hup', hdown, Nat.pow_add, hnum, Binary64.nearest_mul_right _ _ _ (hpow k)]
  · have hup : e.toNat = 0 := by omega
    have hdown : (-(e + k)).toNat = 0 := by omega
    have hsplit : k = (e + k).toNat + (-e).toNat := by omega
    have hnum : c * 10 ^ k * 10 ^ 0 * Binary64.unitsPerOne =
        c * 10 ^ (e + k).toNat * Binary64.unitsPerOne * 10 ^ (-e).toNat := by
      have hten : 10 ^ k = 10 ^ (e + k).toNat * 10 ^ (-e).toNat := by
        rw [← Nat.pow_add, ← hsplit]
      rw [Nat.pow_zero, Nat.mul_one, hten, ← Nat.mul_assoc, Nat.mul_right_comm _ (10 ^ (-e).toNat)]
    have hscale := Binary64.nearest_mul_right negative
      (c * 10 ^ (e + k).toNat * Binary64.unitsPerOne) 1 (hpow (-e).toNat)
    rw [Nat.one_mul] at hscale
    rw [hup, hdown, hnum, hscale, Nat.pow_zero]

/-- Moving a power of ten into the exponent keeps what is read. -/
theorem toExtended_mul_pow (negative : Bool) (c k : Nat) (e : Int) :
    toExtended negative ⟨c * 10 ^ k, e⟩ = toExtended negative ⟨c, e + k⟩ := by
  rcases Nat.eq_zero_or_pos c with rfl | hc
  · simp [toExtended]
  have hpow : 0 < 10 ^ k := Nat.pow_pos (by decide)
  have hzero : c * 10 ^ k = 0 ↔ c = 0 := by
    rw [Nat.mul_eq_zero]
    omega
  rw [toExtended, toExtended, magnitude_mul_pow hc]
  dsimp only
  rw [nearest_mul_pow]
  simp only [hzero]

/-- Three fives are worth more than two tens. -/
theorem ten_pow_le_five_pow (k : Nat) : 10 ^ (2 * k) ≤ 5 ^ (3 * k) := by
  rw [Nat.pow_mul, Nat.pow_mul]
  exact Nat.pow_le_pow_left (by decide) k

/-- Three twos are worth less than one ten. -/
theorem two_pow_le_ten_pow (k : Nat) : 2 ^ (3 * k) ≤ 10 ^ k := by
  rw [Nat.pow_mul]
  exact Nat.pow_le_pow_left (by decide) k

theorem mul_five_pow_lt {m s k b : Nat} (hm : m < 2 ^ s) (hs : s ≤ 3 * b + k) :
    m * 5 ^ k < 10 ^ (b + k) := by
  have hfive : 0 < 5 ^ k := Nat.pow_pos (by decide)
  have htwo : 2 ^ s ≤ 2 ^ (3 * b + k) := Nat.pow_le_pow_right (by decide) hs
  calc m * 5 ^ k < 2 ^ (3 * b + k) * 5 ^ k :=
        Nat.mul_lt_mul_of_pos_right (Nat.lt_of_lt_of_le hm htwo) hfive
    _ = 2 ^ (3 * b) * 10 ^ k := by rw [Nat.pow_add, Nat.mul_assoc, ← Nat.mul_pow]
    _ ≤ 10 ^ b * 10 ^ k := Nat.mul_le_mul_right _ (two_pow_le_ten_pow b)
    _ = 10 ^ (b + k) := (Nat.pow_add 10 b k).symm

theorem magnitude_lt {x : Binary64} {p q : Nat} (hp : x.significand < 2 ^ p) (hq : x.scale ≤ q) :
    x.magnitude < 2 ^ (p + q) := by
  have hscale : 2 ^ x.scale ≤ 2 ^ q := Nat.pow_le_pow_right (by decide) hq
  rw [Binary64.magnitude, Nat.pow_add]
  exact Nat.mul_lt_mul_of_lt_of_le hp hscale (Nat.two_pow_pos _)

/-- The magnitude of a number of halves of halves, as a decimal, from below. -/
theorem lt_magnitude_five_pow {m j k : Nat} (hm : 0 < m) (hj : 0 < j) (hk : 3 * j ≤ k) :
    2 * (j : Int) - k < magnitude ⟨m * 5 ^ k, -k⟩ := by
  have hpow : 10 ^ (2 * j) ≤ m * 5 ^ k :=
    calc 10 ^ (2 * j) ≤ 5 ^ (3 * j) := ten_pow_le_five_pow j
      _ ≤ 5 ^ k := Nat.pow_le_pow_right (by decide) hk
      _ ≤ m * 5 ^ k := Nat.le_mul_of_pos_left _ hm
  have hlen := lt_length_digits (by omega) hpow
  rw [magnitude]
  dsimp only
  omega

/-- The magnitude of a number of halves of halves, as a decimal, from above. -/
theorem magnitude_five_pow_le {m s k b : Nat} (hm : m < 2 ^ s) (hb : 0 < b) (hs : s ≤ 3 * b + k) :
    magnitude ⟨m * 5 ^ k, -k⟩ ≤ b := by
  have hlen := length_digits_le (by omega) (mul_five_pow_lt hm hs)
  rw [magnitude]
  dsimp only
  omega

/-- A number of units of `2 ^ (-k)` that is not beyond the range is read as what it is. -/
theorem toExtended_five_pow {negative : Bool} {m k : Nat} (hm : 0 < m)
    (hunits : Binary64.unitsPerOne = 2 ^ k) (hlow : -400 ≤ magnitude ⟨m * 5 ^ k, -k⟩)
    (hhigh : magnitude ⟨m * 5 ^ k, -k⟩ ≤ 400) :
    toExtended negative ⟨m * 5 ^ k, -k⟩ = Binary64.Extended.nearest negative m 1 := by
  have hfive : 0 < 5 ^ k := Nat.pow_pos (by decide)
  have hten : 0 < 10 ^ k := Nat.pow_pos (by decide)
  have hzero : ¬ (m * 5 ^ k = 0 ∨ magnitude ⟨m * 5 ^ k, -k⟩ < -400) := by
    rintro (h | h)
    · exact Nat.ne_of_gt (Nat.mul_pos hm hfive) h
    · omega
  have hup : (-(k : Int)).toNat = 0 := by omega
  have hdown : (-(-(k : Int))).toNat = k := by omega
  have hnum : m * 5 ^ k * 10 ^ 0 * 2 ^ k = m * 10 ^ k := by
    rw [Nat.pow_zero, Nat.mul_one, Nat.mul_assoc, ← Nat.mul_pow]
  have hscale := Binary64.nearest_mul_right negative m 1 hten
  rw [Nat.one_mul] at hscale
  rw [toExtended, if_neg hzero, if_neg (by omega)]
  dsimp only
  rw [hup, hdown, hunits, hnum, hscale]

/-- The exact value of a double reads back. -/
theorem toExtended_exactDecimal (x : Binary64) (hne : x.significand ≠ 0) :
    x.exactDecimal.toExtended x.negative = .finite x := by
  have hpos : 0 < x.magnitude := Nat.mul_pos (Nat.pos_of_ne_zero hne) (Nat.two_pow_pos _)
  have hlt := magnitude_lt x.significand_lt x.scale_le
  have hlow := @lt_magnitude_five_pow x.magnitude 358 1074 hpos (by decide) (by decide)
  have hhigh := @magnitude_five_pow_le x.magnitude _ 1074 400 hlt (by decide) (by decide)
  have hunits : Binary64.unitsPerOne = 2 ^ 1074 := by
    unfold Binary64.unitsPerOne
    rfl
  have hread := @toExtended_five_pow x.negative x.magnitude 1074 hpos hunits (by omega) hhigh
  rw [Binary64.nearest_magnitude x hne] at hread
  unfold Binary64.exactDecimal
  exact hread

end Decimal

namespace Binary64

theorem readsBack_iff {x : Binary64} {d : Decimal} :
    x.readsBack d = true ↔ d.toExtended x.negative = .finite x := by
  rw [readsBack, decide_eq_true_iff]

/-- A candidate reads back. -/
theorem readsBack_candidate? {tie : TieRule} {x : Binary64} {power : Int} {d : Decimal}
    (h : candidate? tie x power = some d) : x.readsBack d = true := by
  unfold candidate? at h
  dsimp only at h
  split at h
  next => cases h
  next hbelow _ =>
    obtain rfl := Option.some.inj h
    exact hbelow
  next _ habove =>
    obtain rfl := Option.some.inj h
    exact habove
  next hbelow habove =>
    split at h
    next =>
      obtain rfl := Option.some.inj h
      exact hbelow
    next =>
      split at h
      next =>
        obtain rfl := Option.some.inj h
        exact habove
      next =>
        cases tie with
        | toEven =>
          dsimp only at h
          split at h
          next =>
            obtain rfl := Option.some.inj h
            exact hbelow
          next =>
            obtain rfl := Option.some.inj h
            exact habove
        | away =>
          obtain rfl := Option.some.inj h
          exact habove

/-- The shortest decimal of a double reads back. -/
theorem toExtended_shortest (tie : TieRule) (x : Binary64) :
    (x.shortest tie).toExtended x.negative = .finite x := by
  unfold shortest
  split
  next hzero =>
    obtain ⟨negative, significand, scale, hlt, hle, hnormalized⟩ := x
    obtain rfl : significand = 0 := hzero
    obtain rfl : scale = 0 := by omega
    rfl
  next hne =>
    dsimp only
    cases hfound : (List.range 17).findSome?
        fun n : Nat => candidate? tie x (leadingPower x.magnitude - n) with
    | none => exact Decimal.toExtended_exactDecimal x hne
    | some d =>
      obtain ⟨n, _, hc⟩ := List.exists_of_findSome?_eq_some hfound
      exact readsBack_iff.mp (readsBack_candidate? hc)

end Binary64

end ValidatedStore
