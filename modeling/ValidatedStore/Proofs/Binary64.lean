import ValidatedStore.Proofs.Decimal.Reading

/-!
# The double nearest to a whole number

Rounding a quotient leaves at most half of the divisor, and exactly half only at an even result.
Doubles on the scale of a number or above it are multiples of that scale, and those below it lie
further away than the least multiple with 53 digits, so rounding on the scale finds the nearest of
all doubles. For a whole number the result has no fractional part, and up to `2 ^ 53` it is the
number itself. A double compares with the result as with the number, unless it is the result.
-/

namespace ValidatedStore

namespace Binary64

variable {num den r s k : Nat} {x y : Binary64} {m n : Int}

/-- A whole number is nearest to a quotient, and even when it is not the only one. -/
structure RoundsTo (num den r : Nat) : Prop where
  /-- It is not more than a half too small. -/
  above : 2 * num ≤ 2 * (r * den) + den
  /-- It is not more than a half too large. -/
  below : 2 * (r * den) ≤ 2 * num + den
  /-- Where it is off by a half it is even. -/
  even : 2 * num = 2 * (r * den) + den ∨ 2 * (r * den) = 2 * num + den → r % 2 = 0

theorem roundsTo_roundHalfEven (num : Nat) (hden : 0 < den) :
    RoundsTo num den (roundHalfEven num den) := by
  have hnum := Nat.div_add_mod' num den
  have hrest := Nat.mod_lt num hden
  have hsucc : (num / den + 1) * den = num / den * den + den := Nat.succ_mul _ _
  unfold roundHalfEven
  dsimp only
  split
  · exact ⟨by omega, by omega, by omega⟩
  split
  · exact ⟨by omega, by omega, by omega⟩
  rcases Nat.mod_two_eq_zero_or_one (num / den) with heven | hodd
  · rw [heven, Nat.add_zero]
    exact ⟨by omega, by omega, by omega⟩
  · rw [hodd]
    exact ⟨by omega, by omega, by omega⟩

namespace RoundsTo

/-- No multiple of the divisor is nearer than the rounded one. -/
theorem gap_le (h : RoundsTo num den r) (k : Nat) :
    ((r * den : Nat) - (num : Int)).natAbs ≤ ((k * den : Nat) - (num : Int)).natAbs := by
  obtain ⟨habove, hbelow, -⟩ := h
  rcases Nat.lt_trichotomy k r with hlt | rfl | hgt
  · have hstep : (k + 1) * den ≤ r * den := Nat.mul_le_mul_right den hlt
    rw [Nat.succ_mul] at hstep
    omega
  · exact Nat.le_refl _
  · have hstep : (r + 1) * den ≤ k * den := Nat.mul_le_mul_right den hgt
    rw [Nat.succ_mul] at hstep
    omega

/-- Another multiple that is as near makes the rounded one even. -/
theorem even_of_gap_eq (h : RoundsTo num den r) (hne : k * den ≠ r * den)
    (heq : ((k * den : Nat) - (num : Int)).natAbs = ((r * den : Nat) - (num : Int)).natAbs) :
    r % 2 = 0 := by
  obtain ⟨habove, hbelow, heven⟩ := h
  rcases Nat.lt_trichotomy k r with hlt | rfl | hgt
  · have hstep : (k + 1) * den ≤ r * den := Nat.mul_le_mul_right den hlt
    rw [Nat.succ_mul] at hstep
    exact heven (by omega)
  · exact absurd rfl hne
  · have hstep : (r + 1) * den ≤ k * den := Nat.mul_le_mul_right den hgt
    rw [Nat.succ_mul] at hstep
    exact heven (by omega)

end RoundsTo

/-- A double is a multiple of a scale, or lies below the least number with 53 digits on it. -/
theorem magnitude_cases (y : Binary64) (s : Nat) :
    (∃ k, y.magnitude = k * 2 ^ s) ∨ y.magnitude < 2 ^ 52 * 2 ^ s := by
  by_cases hs : s ≤ y.scale
  · refine .inl ⟨y.significand * 2 ^ (y.scale - s), ?_⟩
    rw [magnitude, Nat.mul_assoc, ← Nat.pow_add, Nat.sub_add_cancel hs]
  · refine .inr ?_
    have hpow : 2 ^ 53 * 2 ^ y.scale ≤ 2 ^ 52 * 2 ^ s := by
      rw [← Nat.pow_add, ← Nat.pow_add]
      exact Nat.pow_le_pow_right (by decide) (by omega)
    exact Nat.lt_of_lt_of_le
      (Nat.mul_lt_mul_of_pos_right y.significand_lt (Nat.two_pow_pos _)) hpow

/-- A number with no more than 53 digits above a scale. -/
structure OnScale (num s : Nat) : Prop where
  /-- It has at least 53 digits, unless the scale is the least one. -/
  low : s = 0 ∨ 2 ^ 52 * 2 ^ s ≤ num
  /-- It has at most 53 digits. -/
  high : num < 2 ^ 53 * 2 ^ s

theorem onScale_scaleFor (num : Nat) : OnScale num (scaleFor num 1) := by
  rw [scaleFor, Nat.div_one]
  have hlog := Nat.lt_log2_self (n := num)
  constructor
  · by_cases hs : Nat.log2 num ≤ 52
    · exact .inl (by omega)
    · refine .inr ?_
      have hne : num ≠ 0 := by
        rintro rfl
        exact hs (by decide)
      have hexponent : 52 + (Nat.log2 num - 52) = Nat.log2 num := by omega
      rw [← Nat.pow_add, hexponent]
      exact Nat.log2_self_le hne
  · have hpow : 2 ^ (Nat.log2 num + 1) ≤ 2 ^ 53 * 2 ^ (Nat.log2 num - 52) := by
      rw [← Nat.pow_add]
      exact Nat.pow_le_pow_right (by decide) (by omega)
    omega

namespace OnScale

/-- No double is nearer than the number rounded on its scale. -/
theorem gap_le (hs : OnScale num s) (h : RoundsTo num (2 ^ s) r) (y : Binary64) :
    ((r * 2 ^ s : Nat) - (num : Int)).natAbs ≤ (y.magnitude - (num : Int)).natAbs := by
  rcases y.magnitude_cases s with ⟨k, hk⟩ | hbelow
  · rw [hk]
    exact h.gap_le k
  · rcases hs.low with rfl | hlow
    · have hself := h.gap_le y.magnitude
      rwa [Nat.pow_zero, Nat.mul_one y.magnitude] at hself
    · have hleast := h.gap_le (2 ^ 52)
      omega

/-- Another double that is as near makes the rounded number even. -/
theorem even_of_gap_eq (hs : OnScale num s) (h : RoundsTo num (2 ^ s) r)
    (hne : y.magnitude ≠ r * 2 ^ s)
    (heq : (y.magnitude - (num : Int)).natAbs = ((r * 2 ^ s : Nat) - (num : Int)).natAbs) :
    r % 2 = 0 := by
  rcases y.magnitude_cases s with ⟨k, hk⟩ | hbelow
  · rw [hk] at hne heq
    exact h.even_of_gap_eq hne heq
  · rcases hs.low with rfl | hlow
    · have hself : y.magnitude = y.magnitude * 2 ^ 0 := (Nat.mul_one _).symm
      rw [hself] at hne heq
      exact h.even_of_gap_eq hne heq
    · have hleast := h.gap_le (2 ^ 52)
      omega

/-- The rounded number has 53 digits again, or is the next power of two. -/
theorem rounded_bounds (hs : OnScale num s) (h : RoundsTo num (2 ^ s) r) :
    (s = 0 ∨ 2 ^ 52 ≤ r) ∧ r ≤ 2 ^ 53 := by
  have habove := h.above
  have hbelow := h.below
  constructor
  · refine hs.low.imp_right fun hlow => Nat.le_of_not_lt fun hlt => ?_
    have hstep : (r + 1) * 2 ^ s ≤ 2 ^ 52 * 2 ^ s := Nat.mul_le_mul_right _ hlt
    have hpos := Nat.two_pow_pos s
    rw [Nat.succ_mul] at hstep
    omega
  · refine Nat.le_of_not_lt fun hlt => ?_
    have hstep : (2 ^ 53 + 1) * 2 ^ s ≤ r * 2 ^ s := Nat.mul_le_mul_right _ hlt
    have hhigh := hs.high
    rw [Nat.succ_mul] at hstep
    omega

/-- The rounded number is a double, unless the scale is too large. -/
theorem exists_ofRounded? (hs : OnScale num s) (h : RoundsTo num (2 ^ s) r) (hlt : s < 2045)
    (negative : Bool) :
    ∃ x, ofRounded? negative r s = some x ∧ x.negative = negative ∧ x.magnitude = r * 2 ^ s ∧
      (r % 2 = 0 → x.significand % 2 = 0) := by
  obtain ⟨hlow, hhigh⟩ := hs.rounded_bounds h
  unfold ofRounded?
  by_cases hr : r < 2 ^ 53
  · rw [dif_pos ⟨hr, by omega, hlow⟩]
    exact ⟨_, rfl, rfl, rfl, id⟩
  · obtain rfl : r = 2 ^ 53 := by omega
    rw [dif_neg (fun h => hr h.1), dif_pos ⟨rfl, hlt⟩]
    have hcarry : 2 ^ 52 * 2 ^ (s + 1) = 2 ^ 53 * 2 ^ s := by
      rw [← Nat.pow_add, ← Nat.pow_add, Nat.add_comm s 1, ← Nat.add_assoc]
    have heven : 2 ^ 52 % 2 = 0 := by decide
    exact ⟨_, rfl, rfl, hcarry, fun _ => heven⟩

end OnScale

/-- A double is nearest to a number of units among all doubles, and its significand is even if
another one is as near. -/
structure IsNearest (x : Binary64) (m : Int) : Prop where
  /-- No double is nearer. -/
  nearest : ∀ y : Binary64, (x.units - m).natAbs ≤ (y.units - m).natAbs
  /-- Of two that are nearest it is the even one. -/
  even : ∀ y : Binary64, y.units ≠ x.units →
    (y.units - m).natAbs = (x.units - m).natAbs → x.significand % 2 = 0

/-- Signs do not bring a double nearer to a number of the same sign. -/
theorem isNearest_of_magnitude
    (hgap : ∀ y : Binary64, (x.magnitude - (num : Int)).natAbs ≤ (y.magnitude - (num : Int)).natAbs)
    (heven : ∀ y : Binary64, y.magnitude ≠ x.magnitude →
      (y.magnitude - (num : Int)).natAbs = (x.magnitude - (num : Int)).natAbs →
        x.significand % 2 = 0) :
    x.IsNearest (if x.negative then -(num : Int) else num) := by
  have hzero := hgap (zero false)
  have hmagnitude : (zero false).magnitude = 0 := rfl
  rw [hmagnitude] at hzero
  constructor
  · intro y
    have hy := hgap y
    unfold units
    cases x.negative <;> cases y.negative <;> simp only [Bool.false_eq_true, if_true, if_false] <;>
      omega
  · intro y hne heq
    have hy := hgap y
    have hyeven := heven y
    unfold units at hne heq
    revert hne heq
    cases x.negative <;> cases y.negative <;> simp only [Bool.false_eq_true, if_true, if_false] <;>
      intro hne heq <;> exact hyeven (by omega) (by omega)

namespace IsNearest

/-- The nearest double does not lie beyond a double on the one side. -/
theorem units_le (h : x.IsNearest m) (hle : m ≤ y.units) : x.units ≤ y.units := by
  have hnearest := h.nearest y
  omega

/-- Nor does it on the other side. -/
theorem le_units (h : x.IsNearest m) (hle : y.units ≤ m) : y.units ≤ x.units := by
  have hnearest := h.nearest y
  omega

end IsNearest

/-- Apart from zeros, a double is determined by its value. -/
theorem eq_of_units_eq (h : x.units = y.units) (hne : x.units ≠ 0) : x = y := by
  have hmagnitude : x.magnitude = y.magnitude := by
    unfold units at h
    split at h <;> split at h <;> omega
  have hpos : x.magnitude ≠ 0 := by
    unfold units at hne
    split at hne <;> omega
  have hnegative : x.negative = y.negative := by
    unfold units at h
    cases hx : x.negative <;> cases hy : y.negative <;>
      simp only [hx, hy, Bool.false_eq_true, if_true, if_false, reduceCtorEq] at h ⊢ <;> omega
  have hsignificand : ∀ {z : Binary64}, z.magnitude ≠ 0 → z.significand ≠ 0 := by
    intro z hz hzero
    rw [magnitude, hzero, Nat.zero_mul] at hz
    exact hz rfl
  have hscale : x.scale = y.scale := by
    rw [← scaleFor_magnitude x (hsignificand hpos),
      ← scaleFor_magnitude y (hsignificand (hmagnitude ▸ hpos)), hmagnitude]
  have hsame : x.significand = y.significand := by
    rw [magnitude, magnitude, hscale] at hmagnitude
    exact Nat.eq_of_mul_eq_mul_right (Nat.two_pow_pos _) hmagnitude
  cases x
  cases y
  rw [mk.injEq]
  exact ⟨hnegative, hsame, hscale⟩

theorem unitsPerOne_eq : unitsPerOne = 2 ^ 1074 := by
  unfold unitsPerOne
  rfl

theorem unitsPerOne_pos : 0 < unitsPerOne := by
  rw [unitsPerOne_eq]
  exact Nat.two_pow_pos 1074

/-- The scale of a number is bounded with the number. -/
theorem OnScale.scale_le (hs : OnScale num s) (h : num ≤ 2 ^ k) : s ≤ k - 52 := by
  rcases hs.low with rfl | hlow
  · exact Nat.zero_le _
  · rw [← Nat.pow_add] at hlow
    have hexponents := (Nat.pow_le_pow_iff_right (by decide)).mp (Nat.le_trans hlow h)
    omega

/-- On the scale of ones and below it, whole numbers of ones are multiples of the scale. -/
theorem two_pow_dvd_units (n : Nat) (hs : s ≤ 1074) : 2 ^ s ∣ n * unitsPerOne := by
  rw [unitsPerOne_eq]
  exact Nat.dvd_mul_left_of_dvd (Nat.pow_dvd_pow 2 hs) n

theorem units_le_two_pow {n : Nat} (hn : n ≤ 2 ^ k) : n * unitsPerOne ≤ 2 ^ (k + 1074) := by
  rw [unitsPerOne_eq, Nat.pow_add]
  exact Nat.mul_le_mul_right _ hn

/-- Up to `2 ^ 53` ones, the scale on which a number has 53 digits divides it. -/
theorem OnScale.dvd_units {n : Nat} (hs : OnScale (n * unitsPerOne) s) (hn : n ≤ 2 ^ 53) :
    2 ^ s ∣ n * unitsPerOne := by
  have hscale := hs.scale_le (units_le_two_pow hn)
  by_cases hones : s ≤ 1074
  · exact two_pow_dvd_units n hones
  · -- Only the greatest of these numbers reaches the scale of twos.
    have hpow : ∀ ones, 52 + s = 53 + ones → 2 ^ 52 * 2 ^ s = 2 ^ 53 * 2 ^ ones := by
      intro ones heq
      rw [← Nat.pow_add, heq, Nat.pow_add]
    have htwos : 2 ^ 52 * 2 ^ s = 2 ^ 53 * unitsPerOne := by
      rw [unitsPerOne_eq]
      exact hpow 1074 (by omega)
    have hlow := hs.low.resolve_left (by omega)
    rw [htwos] at hlow
    have hge := Nat.le_of_mul_le_mul_right hlow unitsPerOne_pos
    obtain rfl : n = 2 ^ 53 := Nat.le_antisymm hn hge
    exact ⟨2 ^ 52, by rw [← htwos, Nat.mul_comm]⟩

/-- Rounding a multiple of the divisor changes nothing. -/
theorem RoundsTo.mul_eq_of_dvd (h : RoundsTo num den r) (hdvd : den ∣ num) : r * den = num := by
  obtain ⟨k, rfl⟩ := hdvd
  have hgap := h.gap_le k
  rw [Nat.mul_comm k den] at hgap
  omega

/-- The units of a whole number of ones are those of its magnitude with its sign. -/
theorem signed_units (n : Int) :
    (if decide (n < 0) = true then -((n.natAbs * unitsPerOne : Nat) : Int)
      else (n.natAbs * unitsPerOne : Nat)) = n * unitsPerOne := by
  rw [Int.natCast_mul]
  split
  next hneg =>
    rw [decide_eq_true_eq] at hneg
    rw [← Int.neg_mul, Int.ofNat_natAbs_of_nonpos (by omega), Int.neg_neg]
  next hpos =>
    rw [decide_eq_true_eq] at hpos
    rw [Int.natAbs_of_nonneg (by omega)]

/-- A whole number of the 64-bit ranges is rounded to the nearest double. The result is a whole
number, and up to `2 ^ 53` it is the number itself. -/
theorem exists_ofInt (hn : n.natAbs ≤ 2 ^ 64) :
    ∃ x, Extended.ofInt n = .finite x ∧ x.IsNearest (n * unitsPerOne) ∧ x.isIntegral = true ∧
      (n.natAbs ≤ 2 ^ 53 → x.units = n * unitsPerOne) := by
  have hs := onScale_scaleFor (n.natAbs * unitsPerOne)
  generalize hscale : scaleFor (n.natAbs * unitsPerOne) 1 = s at hs
  have h := roundsTo_roundHalfEven (n.natAbs * unitsPerOne) (Nat.two_pow_pos s)
  have hrange := hs.scale_le (units_le_two_pow hn)
  obtain ⟨x, hx, hnegative, hmagnitude, heven⟩ :=
    hs.exists_ofRounded? h (by omega) (decide (n < 0))
  have hsigned := signed_units n
  refine ⟨x, ?_, ?_, ?_, fun hsmall => ?_⟩
  · rw [Extended.ofInt, nearest_eq_elim, nearest?, hscale, Nat.one_mul, hx]
    rfl
  · rw [← hsigned, ← hnegative]
    refine isNearest_of_magnitude (fun y => ?_) fun y hne heq => heven ?_
    · rw [hmagnitude]
      exact hs.gap_le h y
    · rw [hmagnitude] at hne heq
      exact hs.even_of_gap_eq h hne heq
  · have hmod : x.magnitude % unitsPerOne = 0 := by
      rcases Nat.le_total s 1074 with hbelow | habove
      · rw [hmagnitude, h.mul_eq_of_dvd (two_pow_dvd_units _ hbelow), Nat.mul_mod_left]
      · rw [hmagnitude, unitsPerOne_eq]
        exact Nat.mod_eq_zero_of_dvd (Nat.dvd_mul_left_of_dvd (Nat.pow_dvd_pow 2 habove) _)
    rw [isIntegral, hmod]
    rfl
  · rw [units, hmagnitude, h.mul_eq_of_dvd (hs.dvd_units hsmall), hnegative, hsigned]

/-- No whole number but zero is rounded to zero. -/
theorem IsNearest.units_ne_zero (h : x.IsNearest (n * unitsPerOne)) (hn : n ≠ 0) : x.units ≠ 0 := by
  have hone : n.sign.natAbs = 1 := Int.natAbs_sign_of_ne_zero hn
  obtain ⟨y, -, -, -, hy⟩ := exists_ofInt (n := n.sign) (by rw [hone]; decide)
  have hunits := hy (by rw [hone]; decide)
  have hpos := unitsPerOne_pos
  rcases Int.lt_trichotomy n 0 with hneg | rfl | hpos'
  · rw [Int.sign_eq_neg_one_of_neg hneg] at hunits
    have hle : n * unitsPerOne ≤ -1 * unitsPerOne :=
      Int.mul_le_mul_of_nonneg_right (by omega) (by omega)
    have hbelow := h.units_le (y := y) (by rw [hunits]; exact hle)
    omega
  · exact absurd rfl hn
  · rw [Int.sign_eq_one_of_pos hpos'] at hunits
    have hle : 1 * unitsPerOne ≤ n * unitsPerOne :=
      Int.mul_le_mul_of_nonneg_right (by omega) (by omega)
    have habove := h.le_units (y := y) (by rw [hunits]; exact hle)
    omega

namespace IsNearest

/-- A double with the value of the nearest one is that double, or the whole number itself. -/
theorem eq_or_exact (h : x.IsNearest (n * unitsPerOne)) (hy : y.units = x.units) :
    y = x ∨ y.units = n * unitsPerOne := by
  by_cases hn : n = 0
  · -- The two zeros have one value, which is exact.
    have hzero := h.nearest (zero false)
    have hunits : (zero false).units = 0 := rfl
    rw [hn, Int.zero_mul, hunits] at hzero
    refine .inr ?_
    rw [hy, hn, Int.zero_mul]
    omega
  · exact .inl (eq_of_units_eq hy (hy ▸ h.units_ne_zero hn))

/-- A double is at most the nearest one if it is at most the whole number, or is the nearest one. -/
theorem units_le_iff (h : x.IsNearest (n * unitsPerOne)) :
    y.units ≤ x.units ↔ y.units ≤ n * unitsPerOne ∨ y = x := by
  refine ⟨fun hle => ?_, fun hcases => ?_⟩
  · rcases Int.lt_or_eq_of_le hle with hlt | heq
    · refine .inl (Int.le_of_not_gt fun hgt => ?_)
      have hbeyond := h.units_le (Int.le_of_lt hgt)
      omega
    · exact (h.eq_or_exact heq).symm.imp_left Int.le_of_eq
  · rcases hcases with hle | rfl
    · exact h.le_units hle
    · exact Int.le_refl _

/-- A double is at least the nearest one if it is at least the whole number, or is the nearest
one. -/
theorem le_units_iff (h : x.IsNearest (n * unitsPerOne)) :
    x.units ≤ y.units ↔ n * unitsPerOne ≤ y.units ∨ y = x := by
  refine ⟨fun hle => ?_, fun hcases => ?_⟩
  · rcases Int.lt_or_eq_of_le hle with hlt | heq
    · refine .inl (Int.le_of_not_gt fun hgt => ?_)
      have hbeyond := h.le_units (Int.le_of_lt hgt)
      omega
    · exact (h.eq_or_exact heq.symm).symm.imp_left fun hexact => Int.le_of_eq hexact.symm
  · rcases hcases with hle | rfl
    · exact h.units_le hle
    · exact Int.le_refl _

end IsNearest

end Binary64

end ValidatedStore
