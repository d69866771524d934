import ValidatedStore.Decimal.Layout

/-!
# Numbers of a JSON value

A number is a whole number of the signed or unsigned 64-bit range, or a finite double; the two
stay apart, so `1` and `1.0` are different numbers with different texts.
-/

namespace ValidatedStore

/-- A JSON number. -/
inductive Number
  /-- A whole number that fits 64 bits, signed when negative and unsigned otherwise. -/
  | integer (value : Int) (in_range : -2 ^ 63 ≤ value ∧ value < 2 ^ 64)
  /-- A finite double. -/
  | double (value : Binary64)
deriving DecidableEq

namespace Number

/-- The whole number, when it fits 64 bits. -/
def ofInt? (n : Int) : Option Number :=
  if h : -2 ^ 63 ≤ n ∧ n < 2 ^ 64 then some (.integer n h) else none

/-- Zero as a whole number. -/
def zero : Number := .integer 0 (by decide)

/-- The whole number of a signed 64-bit sum, which wraps around. -/
def ofWrapped (n : Int) : Number :=
  .integer (Int.bmod n (2 ^ 64)) (by
    have h₁ := Int.le_bmod (x := n) (m := 2 ^ 64) (by decide)
    have h₂ := Int.bmod_lt (x := n) (m := 2 ^ 64) (by decide)
    omega)

/-- The number as a double: whole numbers are rounded to the nearest one. -/
def toExtended : Number → Binary64.Extended
  | .integer n _ => .ofInt n
  | .double x => .finite x

/-- The whole number, unless the number is a double. -/
def toInt? : Number → Option Int
  | .integer n _ => some n
  | .double _ => none

/-- The whole number, when it is one of the signed 64-bit range. -/
def toSigned64? (n : Number) : Option Int :=
  n.toInt?.filter fun i => decide (i < 2 ^ 63)

/-- The whole number, when it is not negative. -/
def toUnsigned64? (n : Number) : Option Nat :=
  (n.toInt?.filter fun i => decide (0 ≤ i)).map Int.toNat

/-- The JSON text of a number. -/
def text : Number → List Char
  | .integer n _ => if n < 0 then '-' :: Decimal.digits n.natAbs else Decimal.digits n.natAbs
  | .double x => Layout.json.text x

/-- The number that a JSON literal denotes, given its sign, the digits before the point, and the
digits after it and the exponent where they are written. A literal of digits alone is a whole
number when it fits; all others are read as doubles, and `none` says that the double would be
infinite. -/
def ofLiteral? (negative : Bool) (whole : List Char) (fraction : Option (List Char))
    (exponent : Option Int) : Option Number :=
  let asDouble :=
    let places := fraction.getD []
    let d : Decimal := ⟨Decimal.ofDigits (whole ++ places), exponent.getD 0 - places.length⟩
    match d.toExtended negative with
    | .finite x => some (.double x)
    | _ => none
  match fraction, exponent with
  | none, none =>
    let n := Decimal.ofDigits whole
    if negative then
      if n = 0 then asDouble else (ofInt? (-n)).or asDouble
    else (ofInt? n).or asDouble
  | _, _ => asDouble

end Number

end ValidatedStore
