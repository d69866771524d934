/-!
# Sets of characters by ranges

A set of characters is given by ranges of code points, in ascending order and apart from each
other. Surrogates are no characters, so that the code points on either side of them are
neighbours.
-/

namespace ValidatedStore

namespace Unicode

/-- Closed ranges of code points. -/
abbrev Ranges := List (Nat × Nat)

/-- The code point of the next character. -/
def nextCode (n : Nat) : Nat := if n = 0xD7FF then 0xE000 else n + 1

/-- The code point of the character before. -/
def previousCode (n : Nat) : Nat := if n = 0xE000 then 0xD7FF else n - 1

namespace Ranges

/-- Whether a code point lies in one of the ranges. -/
def hasCode (ranges : Ranges) (n : Nat) : Bool :=
  ranges.any fun range => range.1 ≤ n && n ≤ range.2

/-- Whether a character lies in one of the ranges. -/
def contains (ranges : Ranges) (c : Char) : Bool := ranges.hasCode c.toNat

/-- Add a range that begins no earlier than those before, of which the last comes first. -/
def adjoin (before : Ranges) (range : Nat × Nat) : Ranges :=
  match before with
  | [] => [range]
  | last :: others =>
    if range.1 ≤ nextCode last.2 then (last.1, max last.2 range.2) :: others
    else range :: before

/-- The set of all characters in some ranges, which may overlap and come in any order. -/
def ofList (ranges : List (Nat × Nat)) : Ranges :=
  ((ranges.mergeSort fun a b => a.1 ≤ b.1).foldl adjoin []).reverse

/-- The members of either set. -/
def union (a b : Ranges) : Ranges := ofList (a ++ b)

/-- All other characters. -/
def complement (a : Ranges) : Ranges :=
  let begins := 0 :: a.map fun range => nextCode range.2
  let bounds := a.map (·.1) ++ [0x110000]
  (begins.zip bounds).filterMap fun (first, bound) =>
    if first < bound then some (first, previousCode bound) else none

/-- The members of both sets. -/
def intersection (a b : Ranges) : Ranges := complement (union (complement a) (complement b))

/-- The members of the first set alone. -/
def difference (a b : Ranges) : Ranges := intersection a (complement b)

/-- The members of exactly one of two sets. -/
def symmetricDifference (a b : Ranges) : Ranges := difference (union a b) (intersection a b)

end Ranges

end Unicode

end ValidatedStore
