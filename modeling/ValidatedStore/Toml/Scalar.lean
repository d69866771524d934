import ValidatedStore.Decimal
import ValidatedStore.Toml.Document

/-!
# TOML numbers, dates and times

Everything that is neither a text nor a container is written as one token without blanks, apart
from the blank that may stand between a date and a time. A token is a truth value, a whole number
in one of four bases, a double, or a date with a time, a date, or a time; digits of numbers may be
grouped by underscores.
-/

namespace ValidatedStore

namespace Toml

/-- The value of a hexadecimal digit of either case. -/
def digitValue? (c : Char) : Option Nat :=
  if '0' ≤ c ∧ c ≤ '9' then some (c.toNat - 48)
  else if 'a' ≤ c ∧ c ≤ 'f' then some (c.toNat - 87)
  else if 'A' ≤ c ∧ c ≤ 'F' then some (c.toNat - 55)
  else none

/-- Whether a character is a digit in a base of at most sixteen. -/
def isDigitOf (base : Nat) (c : Char) : Bool := (digitValue? c).any fun d => decide (d < base)

/-- The number spelled by digits in a base. -/
def valueOf (base : Nat) (ds : List Char) : Nat :=
  ds.foldl (fun n c => base * n + (digitValue? c).getD 0) 0

/-- Digits without their underscores, each of which has to stand between two digits. -/
def ungroup (base : Nat) : Bool → List Char → Option (List Char)
  | afterDigit, [] => if afterDigit then some [] else none
  | afterDigit, c :: rest =>
    if isDigitOf base c then (ungroup base true rest).map fun ds => c :: ds
    else if c = '_' ∧ afterDigit then ungroup base false rest
    else none

/-- The sign of a number and what follows it. -/
def splitSign : List Char → Bool × List Char
  | '-' :: rest => (true, rest)
  | '+' :: rest => (false, rest)
  | cs => (false, cs)

/-- Decimal digits that do not begin with a superfluous zero. -/
def wholeDigits? (cs : List Char) : Option (List Char) :=
  match ungroup 10 false cs with
  | some ('0' :: _ :: _) => none
  | digits => digits

/-- A whole number of the signed 64-bit range. -/
def integer? (token : List Char) : Option Int :=
  let magnitude : Option Int :=
    match token with
    | '0' :: 'x' :: ds => (ungroup 16 false ds).map fun ds => (valueOf 16 ds : Int)
    | '0' :: 'o' :: ds => (ungroup 8 false ds).map fun ds => (valueOf 8 ds : Int)
    | '0' :: 'b' :: ds => (ungroup 2 false ds).map fun ds => (valueOf 2 ds : Int)
    | _ =>
      let (negative, ds) := splitSign token
      (wholeDigits? ds).map fun ds =>
        if negative then -(valueOf 10 ds : Int) else (valueOf 10 ds : Int)
  magnitude.filter fun n => decide (-2 ^ 63 ≤ n) && decide (n < 2 ^ 63)

/-- The digits after a point, if there is one. -/
def fractionDigits? : List Char → Option (List Char)
  | [] => some []
  | '.' :: ds => ungroup 10 false ds
  | _ => none

/-- The power of ten after its letter, if there is one. -/
def exponent? : List Char → Option Int
  | [] => some 0
  | _ :: cs =>
    let (negative, ds) := splitSign cs
    (ungroup 10 false ds).map fun ds =>
      if negative then -(valueOf 10 ds : Int) else (valueOf 10 ds : Int)

/-- A double; digits alone are none. A number too large to be finite is refused, and one below all
finite numbers is negative infinity. -/
def float? (token : List Char) : Option Binary64.Extended :=
  let (negative, unsigned) := splitSign token
  if unsigned = "inf".toList then some (.infinite negative)
  else if unsigned = "nan".toList then some .undefined
  else
    let isExponentMark (c : Char) : Bool := c == 'e' || c == 'E'
    let (mantissa, power) := unsigned.span fun c => !isExponentMark c
    let (whole, fraction) := mantissa.span fun c => c != '.'
    if fraction.isEmpty && power.isEmpty then none
    else do
      let whole ← wholeDigits? whole
      let fraction ← fractionDigits? fraction
      let exponent ← exponent? power
      let d : Decimal := ⟨valueOf 10 (whole ++ fraction), exponent - fraction.length⟩
      match d.toExtended negative with
      | .infinite false => none
      | x => some x

/-- The number spelled by two digits. -/
def twoDigits? (a b : Char) : Option Nat :=
  if isDigitOf 10 a && isDigitOf 10 b then some (valueOf 10 [a, b]) else none

/-- The number of days of a month. -/
def daysIn (year month : Nat) : Nat :=
  if month = 2 then
    if year % 4 = 0 ∧ (year % 100 ≠ 0 ∨ year % 400 = 0) then 29 else 28
  else if month = 4 ∨ month = 6 ∨ month = 9 ∨ month = 11 then 30
  else 31

/-- What follows a date, `none` when there is no date. -/
def afterDate? : List Char → Option (List Char)
  | a :: b :: c :: d :: '-' :: e :: f :: '-' :: g :: h :: rest => do
    let century ← twoDigits? a b
    let year ← twoDigits? c d
    let month ← twoDigits? e f
    let day ← twoDigits? g h
    if 1 ≤ month ∧ month ≤ 12 ∧ 1 ≤ day ∧ day ≤ daysIn (100 * century + year) month then some rest
    else none
  | _ => none

/-- What follows the fraction of a second, `none` when its point stands without digits. -/
def afterSecondFraction? : List Char → Option (List Char)
  | '.' :: rest =>
    match rest.span (isDigitOf 10) with
    | ([], _) => none
    | (_, after) => some after
  | cs => some cs

/-- What follows a time of day, `none` when there is none. -/
def afterTime? : List Char → Option (List Char)
  | a :: b :: ':' :: c :: d :: ':' :: e :: f :: rest => do
    let hour ← twoDigits? a b
    let minute ← twoDigits? c d
    let second ← twoDigits? e f
    if hour ≤ 23 ∧ minute ≤ 59 ∧ second ≤ 60 then afterSecondFraction? rest else none
  | _ => none

/-- Whether the text is empty or names the distance from universal time. -/
def isOffset : List Char → Bool
  | [] => true
  | [c] => c == 'Z' || c == 'z'
  | [sign, a, b, ':', c, d] =>
    (sign == '+' || sign == '-') && (twoDigits? a b).any (fun hour => decide (hour ≤ 23)) &&
      (twoDigits? c d).any (fun minute => decide (minute ≤ 59))
  | _ => false

/-- Whether a token is a date with a time, a date, or a time. -/
def isDatetime (token : List Char) : Bool :=
  match afterDate? token with
  | some [] => true
  | some (separator :: time) =>
    (separator == 'T' || separator == 't' || separator == ' ') && (afterTime? time).any isOffset
  | none => afterTime? token == some []

/-- The value of a token. -/
def scalar? (token : List Char) : Option Value :=
  if token = "true".toList then some (.boolean true)
  else if token = "false".toList then some (.boolean false)
  else if isDatetime token then some (.datetime (String.ofList token))
  else
    match integer? token with
    | some n => some (.integer n)
    | none => (float? token).map Value.float

/-- Whether a character may stand in a token. -/
def isTokenChar (c : Char) : Bool :=
  c.isAlphanum || c == '+' || c == '-' || c == '_' || c == '.' || c == ':'

/-- A token and what follows it; a blank between a date and a time belongs to the token. -/
def spanToken (cs : List Char) : List Char × List Char :=
  match cs.span isTokenChar with
  | (date, ' ' :: rest) =>
    let (time, after) := rest.span isTokenChar
    if afterDate? date == some [] && (afterTime? time).isSome then (date ++ ' ' :: time, after)
    else (date, ' ' :: rest)
  | split => split

end Toml

end ValidatedStore
