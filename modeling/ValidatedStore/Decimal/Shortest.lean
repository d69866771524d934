import ValidatedStore.Decimal

/-!
# The shortest decimal that reads back

For every count of digits from one to seventeen the two decimals on that grid around a double are
tried, and the first grid on which one of them reads back as the double gives its text. Whatever
is chosen reads back by construction: the candidates are tested with the same reader that later
meets the text.
-/

namespace ValidatedStore

namespace Binary64

/-- What becomes of an exact tie between two shortest decimals. -/
inductive TieRule
  /-- The candidate with the even last digit. -/
  | toEven
  /-- The candidate farther from zero. -/
  | away
deriving DecidableEq

/-- The power of ten of the leading digit of a positive magnitude. -/
def leadingPower (magnitude : Nat) : Int :=
  (Decimal.digits (magnitude * 10 ^ 400 / unitsPerOne)).length - 401

/-- A magnitude measured on the grid of a power of ten, as a quotient of whole numbers. -/
def onGrid (magnitude : Nat) (power : Int) : Nat × Nat :=
  (magnitude * 10 ^ (-power).toNat, unitsPerOne * 10 ^ power.toNat)

/-- Whether a decimal reads back as the number. -/
def readsBack (x : Binary64) (d : Decimal) : Bool :=
  decide (d.toExtended x.negative = .finite x)

/-- The decimal nearest to the number among its neighbours on one grid that read back. -/
def candidate? (tie : TieRule) (x : Binary64) (power : Int) : Option Decimal :=
  let (num, den) := onGrid x.magnitude power
  let below : Decimal := ⟨num / den, power⟩
  let above : Decimal := ⟨num / den + 1, power⟩
  let rest := 2 * (num % den)
  match x.readsBack below, x.readsBack above with
  | false, false => none
  | true, false => some below
  | false, true => some above
  | true, true =>
    if rest < den then some below
    else if den < rest then some above
    else match tie with
      | .toEven => some (if num / den % 2 = 0 then below else above)
      | .away => some above

/-- The exact decimal value, which needs no rounding to be read back. -/
def exactDecimal (x : Binary64) : Decimal := ⟨x.magnitude * 5 ^ 1074, -1074⟩

/-- The decimal with the fewest digits that reads back as the number. -/
def shortest (tie : TieRule) (x : Binary64) : Decimal :=
  if x.significand = 0 then ⟨0, 0⟩
  else
    let top := leadingPower x.magnitude
    ((List.range 17).findSome? fun n : Nat => candidate? tie x (top - n)).getD x.exactDecimal

end Binary64

end ValidatedStore
