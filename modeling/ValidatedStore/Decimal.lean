import ValidatedStore.Binary64

/-!
# Decimal numerals

A decimal is a whole coefficient and a power of ten. It is read as the nearest double, with
magnitudes far outside the range decided by the count of digits alone, so that an exponent of any
size costs nothing.
-/

namespace ValidatedStore

/-- The number `coefficient * 10 ^ exponent`. -/
structure Decimal where
  /-- The digits, read as one whole number. -/
  coefficient : Nat
  /-- The power of ten. -/
  exponent : Int
deriving DecidableEq

namespace Decimal

/-- The decimal digits of a whole number, the most significant first. -/
def digits (n : Nat) : List Char := Nat.toDigits 10 n

/-- The value of one decimal digit. -/
def digitValue (c : Char) : Nat := c.toNat - '0'.toNat

/-- The whole number that a list of decimal digits spells. -/
def ofDigits (ds : List Char) : Nat := ds.foldl (fun n c => 10 * n + digitValue c) 0

/-- The position of the leading digit: the value lies below `10 ^ magnitude`, and at or above a
tenth of that unless it is zero. -/
def magnitude (d : Decimal) : Int := (digits d.coefficient).length + d.exponent

/-- The double nearest to a decimal of the given sign. Beyond `10 ^ 400` every value is infinite,
and below `10 ^ (-400)` every value is zero. -/
def toExtended (negative : Bool) (d : Decimal) : Binary64.Extended :=
  if d.coefficient = 0 ∨ d.magnitude < -400 then .finite (.zero negative)
  else if 400 < d.magnitude then .infinite negative
  else
    let num := d.coefficient * 10 ^ d.exponent.toNat * Binary64.unitsPerOne
    .nearest negative num (10 ^ (-d.exponent).toNat)

/-- The same value without trailing zeros, as its digits and the power of ten of the last one. -/
def significant (d : Decimal) : List Char × Int :=
  let all := digits d.coefficient
  let kept := (all.reverse.dropWhile (· == '0')).reverse
  if kept.isEmpty then (['0'], 0) else (kept, d.exponent + (all.length - kept.length : Nat))

end Decimal

end ValidatedStore
