/-!
# Finite binary64 numbers

A finite double is a sign and a whole number of units, the unit being `2 ^ (-1074)`, the least
positive double. Every comparison is then a comparison of integers, and rounding is the choice of
the nearest significand with a half going to the even neighbour. `Extended` adds the two
infinities and the undefined value, which occur as ends of a range but never as stored numbers.
-/

namespace ValidatedStore

-- Powers of numbers are the ones that compute on literals, also where monoids bring their own.
attribute [instance (2000), default_instance 20000] instPowNat

/-- A finite binary64 number `(-1) ^ negative * significand * 2 ^ scale` units of `2 ^ (-1074)`. -/
structure Binary64 where
  /-- The sign; both zeros exist. -/
  negative : Bool
  /-- The integral significand. -/
  significand : Nat
  /-- The power of two by which the significand stands above the unit. -/
  scale : Nat
  /-- A significand has at most 53 binary digits. -/
  significand_lt : significand < 2 ^ 53
  /-- The greatest scale belongs to numbers just below `2 ^ 1024`. -/
  scale_le : scale ≤ 2045
  /-- Each number has one form: above the least scale the leading digit is set. -/
  normalized : scale = 0 ∨ 2 ^ 52 ≤ significand
deriving DecidableEq

namespace Binary64

/-- Units in the number one. -/
def unitsPerOne : Nat := 2 ^ 1074

/-- The absolute value, counted in units. -/
def magnitude (x : Binary64) : Nat := x.significand * 2 ^ x.scale

/-- The exact value, counted in units. -/
def units (x : Binary64) : Int :=
  if x.negative then -(x.magnitude : Int) else (x.magnitude : Int)

/-- Zero of the given sign. -/
def zero (negative : Bool) : Binary64 :=
  ⟨negative, 0, 0, by decide, by decide, .inl rfl⟩

/-- Whether the value has no fractional part. -/
def isIntegral (x : Binary64) : Bool := x.magnitude % unitsPerOne == 0

/-- The whole number nearest to `num / den`, a half going to the even neighbour. -/
def roundHalfEven (num den : Nat) : Nat :=
  let quotient := num / den
  let rest := 2 * (num % den)
  if rest < den then quotient
  else if den < rest then quotient + 1
  else quotient + quotient % 2

/-- The number with a rounded significand; a carry out of 53 digits moves one scale up, and
`none` says that the magnitude is too large. -/
def ofRounded? (negative : Bool) (significand scale : Nat) : Option Binary64 :=
  if h : significand < 2 ^ 53 ∧ scale ≤ 2045 ∧ (scale = 0 ∨ 2 ^ 52 ≤ significand) then
    some ⟨negative, significand, scale, h.1, h.2.1, h.2.2⟩
  else if h : significand = 2 ^ 53 ∧ scale < 2045 then
    some ⟨negative, 2 ^ 52, scale + 1, by decide, h.2, .inr (Nat.le_refl _)⟩
  else none

/-- The scale on which a magnitude of `num / den` units has 53 significant binary digits, or the
least scale when it has fewer. -/
def scaleFor (num den : Nat) : Nat := Nat.log2 (num / den) - 52

/-- The finite number nearest to `num / den` units, `none` when it lies beyond the greatest. -/
def nearest? (negative : Bool) (num den : Nat) : Option Binary64 :=
  let scale := scaleFor num den
  ofRounded? negative (roundHalfEven num (den * 2 ^ scale)) scale

/-- Binary64 numbers together with the infinities and the undefined value. -/
inductive Extended
  /-- A finite number. -/
  | finite (x : Binary64)
  /-- An infinity of the given sign. -/
  | infinite (negative : Bool)
  /-- The undefined value, which compares with nothing. -/
  | undefined
deriving DecidableEq

namespace Extended

/-- The value nearest to `num / den` units; what lies beyond the greatest finite number becomes
infinite. -/
def nearest (negative : Bool) (num den : Nat) : Extended :=
  match nearest? negative num den with
  | some x => .finite x
  | none => .infinite negative

/-- The nearest value to a whole number. -/
def ofInt (n : Int) : Extended := nearest (decide (n < 0)) (n.natAbs * unitsPerOne) 1

/-- Order of the represented values: false as soon as one side is undefined. -/
def le : Extended → Extended → Bool
  | .undefined, _ => false
  | _, .undefined => false
  | .infinite true, _ => true
  | _, .infinite false => true
  | .infinite false, _ => false
  | _, .infinite true => false
  | .finite x, .finite y => decide (x.units ≤ y.units)

/-- Whether the value is finite without a fractional part. -/
def isIntegral : Extended → Bool
  | .finite x => x.isIntegral
  | _ => false

end Extended

end Binary64

end ValidatedStore
