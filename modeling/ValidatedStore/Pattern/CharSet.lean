import ValidatedStore.Unicode.CaseFolding
import ValidatedStore.Unicode.DecimalDigits
import ValidatedStore.Unicode.WhiteSpace
import ValidatedStore.Unicode.WordCharacters

/-!
# Sets of characters in a pattern

The sets that a pattern names, and the widening of a set over case.
-/

namespace ValidatedStore

namespace Pattern

/-- A set of characters. -/
abbrev CharSet := Unicode.Ranges

namespace CharSet

/-- The set of one character. -/
def single (c : Char) : CharSet := [(c.toNat, c.toNat)]

/-- The characters between two, both included. -/
def range (first last : Char) : CharSet := [(first.toNat, last.toNat)]

/-- The set of all characters. -/
def anyChar : CharSet := [(0, 0x10FFFF)]

/-- The set of all characters but the line feed. -/
def anyButLineFeed : CharSet := (single '\n').complement

/-- A set, or its complement. -/
def negatedIf (negated : Bool) (a : CharSet) : CharSet := if negated then a.complement else a

/-- Widen a set over case when letters are matched in either case. -/
def foldedIf (ignoreCase : Bool) (a : CharSet) : CharSet := if ignoreCase then a.caseless else a

/-- The only member of a set, if it has a single one. -/
def only? : CharSet → Option Nat
  | [(first, last)] => if first = last then some first else none
  | _ => none

/-- Whether no member needs more than one byte. -/
def isAscii (a : CharSet) : Bool := a.all fun range => decide (range.2 < 128)

end CharSet

end Pattern

end ValidatedStore
