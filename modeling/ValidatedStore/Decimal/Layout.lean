import ValidatedStore.Decimal.Shortest

/-!
# Layouts of doubles

A layout fixes what the digits of a double leave open: which powers are written positionally,
whether a whole number shows its point, how an exponent is signed, and which of two equally near
shortest decimals is taken.
-/

namespace ValidatedStore

/-- How the shortest digits of a double are set out as text. -/
structure Layout where
  /-- The least leading power written positionally, if there is one. -/
  positionalFrom : Option Int
  /-- The greatest leading power written positionally, if there is one. -/
  positionalTo : Option Int
  /-- Whether a whole number in positional form ends in a point and a zero. -/
  showsPoint : Bool
  /-- Whether a positive exponent carries a plus sign. -/
  showsPlus : Bool
  /-- The choice between equally near shortest decimals. -/
  tie : Binary64.TieRule

namespace Layout

/-- JSON text: positional from `10 ^ (-5)` to `10 ^ 15`, always with a point, and a signed
exponent outside. -/
def json : Layout := ⟨some (-5), some 15, true, true, .toEven⟩

/-- Messages: positional throughout, without a point on whole numbers. -/
def plain : Layout := ⟨none, none, false, false, .away⟩

/-- Inspection: positional from `10 ^ (-4)` to `10 ^ 15`, with a point, and a bare exponent
outside. -/
def inspection : Layout := ⟨some (-4), some 15, true, false, .away⟩

/-- Whether a leading power is written positionally. -/
def isPositional (layout : Layout) (power : Int) : Bool :=
  layout.positionalFrom.all (fun least => decide (least ≤ power)) &&
    layout.positionalTo.all (fun greatest => decide (power ≤ greatest))

/-- Digits in positional form, given the power of the leading one. -/
def positional (layout : Layout) (ds : List Char) (power : Int) : List Char :=
  if power < 0 then '0' :: '.' :: List.replicate (-power - 1).toNat '0' ++ ds
  else
    let whole := power.toNat + 1
    if whole < ds.length then ds.take whole ++ '.' :: ds.drop whole
    else
      let padded := ds ++ List.replicate (whole - ds.length) '0'
      if layout.showsPoint then padded ++ ['.', '0'] else padded

/-- Digits with an exponent, given the power of the leading one. -/
def scientific (layout : Layout) (ds : List Char) (power : Int) : List Char :=
  let mantissa := match ds with
    | [] => []
    | [d] => [d]
    | d :: rest => d :: '.' :: rest
  let sign := if power < 0 then ['-'] else if layout.showsPlus then ['+'] else []
  mantissa ++ 'e' :: sign ++ Decimal.digits power.natAbs

/-- A decimal magnitude set out as text. -/
def magnitudeText (layout : Layout) (d : Decimal) : List Char :=
  let (ds, last) := d.significant
  let power := last + (ds.length - 1 : Nat)
  if layout.isPositional power then layout.positional ds power else layout.scientific ds power

/-- A finite double as text. -/
def text (layout : Layout) (x : Binary64) : List Char :=
  let body := layout.magnitudeText (x.shortest layout.tie)
  if x.negative then '-' :: body else body

/-- Any value as text; the infinities and the undefined value have names. -/
def extendedText (layout : Layout) : Binary64.Extended → List Char
  | .finite x => layout.text x
  | .infinite false => "inf".toList
  | .infinite true => "-inf".toList
  | .undefined => "NaN".toList

end Layout

end ValidatedStore
