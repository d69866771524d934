import ValidatedStore.Unicode.Ranges

/-!
# Characters as rows of byte ranges

The UTF-8 encodings of the characters in a range are the rows of bytes that can be chosen from a
few rows of byte ranges. The rows come in ascending order, and two of them that share the ranges of
their first bytes stand together.
-/

namespace ValidatedStore

namespace Unicode

/-- A choice of one byte from each range, one after the other. -/
abbrev ByteRow := List (Nat × Nat)

/-- The rows for the numbers between two, written with a digit and some further digits of base
sixty-four. The first digit is marked by adding a number, the others by adding 128. -/
def digitRows : Nat → Nat → Nat → Nat → List ByteRow
  | 0, mark, first, last => [[(mark + first, mark + last)]]
  | digits + 1, mark, first, last =>
    let block := 64 ^ (digits + 1)
    let a := first / block
    let b := last / block
    let below (digit first last : Nat) : List ByteRow :=
      (digitRows digits 0x80 first last).map ((mark + digit, mark + digit) :: ·)
    if a = b then below a (first % block) (last % block)
    else
      let lowCut := first % block != 0
      let highCut := last % block != block - 1
      let a' := if lowCut then a + 1 else a
      let bound := if highCut then b else b + 1
      (if lowCut then below a (first % block) (block - 1) else [])
        ++ (if a' < bound then
            [(mark + a', mark + bound - 1) :: List.replicate (digits + 1) (0x80, 0xBF)]
          else [])
        ++ (if highCut then below b 0 (last % block) else [])

/-- The encodings of one length: how many bytes follow the first, what marks the first byte, and
the characters that are so encoded. -/
def encodings : List (Nat × Nat × Nat × Nat) := [
  (0, 0, 0, 0x7F), (1, 0xC0, 0x80, 0x7FF), (2, 0xE0, 0x800, 0xD7FF), (2, 0xE0, 0xE000, 0xFFFF),
  (3, 0xF0, 0x10000, 0x10FFFF)]

/-- The rows for the characters between two code points. -/
def byteRows (range : Nat × Nat) : List ByteRow :=
  encodings.flatMap fun (digits, mark, least, greatest) =>
    let first := max range.1 least
    let last := min range.2 greatest
    if first ≤ last then digitRows digits mark first last else []

/-- The rows for all characters of a set. -/
def Ranges.byteRows (ranges : Ranges) : List ByteRow := ranges.flatMap Unicode.byteRows

/-- The UTF-8 encoding of a code point. -/
def encode (n : Nat) : List Nat := (Unicode.byteRows (n, n)).flatMap fun row => row.map (·.1)

end Unicode

end ValidatedStore
