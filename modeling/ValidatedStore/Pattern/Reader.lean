import ValidatedStore.Pattern.Size
import ValidatedStore.Unicode.Alphabetic
import ValidatedStore.Unicode.Numbers

/-!
# Reading patterns

The reader accepts literals and escapes, the dot, anchors and word boundaries, character classes
with ranges, nesting and set operations, groups with and without names, alternatives that may be
empty, repetitions of any kind and repetitions of repetitions, and switches for case, line anchors
and the dot. Look-around, back references and named character properties are refused, and so are
patterns that nest too deeply or take too much room.
-/

namespace ValidatedStore

namespace Pattern

/-- The switches in force at a place of a pattern. -/
structure Switches where
  /-- Letters match in either case. -/
  ignoreCase : Bool
  /-- The anchors also match at lines. -/
  lineAnchors : Bool
  /-- The dot also matches a line feed. -/
  dotMatchesAll : Bool
deriving DecidableEq

/-- The switches at the beginning of a pattern. -/
def Switches.initial : Switches := ⟨false, false, false⟩

/-- What an escape stands for. -/
inductive Escape
  /-- One character. -/
  | literal (c : Char)
  /-- One character of a set that has a name. -/
  | named (set : CharSet)
  /-- A condition on the place. -/
  | assertion (condition : Assertion)

/-- Characters with a meaning of their own, which a backslash takes away. -/
def isMeta (c : Char) : Bool := "\\.+*?()|[]\x7b\x7d^$#&-~".toList.contains c

/-- Characters that may follow a backslash to stand for themselves. -/
def isEscapable (c : Char) : Bool :=
  isMeta c || (decide (c.toNat < 128) && !c.isAlphanum && c != '<' && c != '>')

/-- The value of a hexadecimal digit of either case. -/
def hexDigit? (c : Char) : Option Nat :=
  if '0' ≤ c ∧ c ≤ '9' then some (c.toNat - 48)
  else if 'a' ≤ c ∧ c ≤ 'f' then some (c.toNat - 87)
  else if 'A' ≤ c ∧ c ≤ 'F' then some (c.toNat - 55)
  else none

/-- The character with a code point spelled in hexadecimal digits, unless there is none. -/
def charOfHex? (ds : List Char) : Option Char := do
  if ds.isEmpty then none
  else
    let n ← ds.foldlM (fun n c => (hexDigit? c).map fun d => 16 * n + d) 0
    if n < 0xD800 ∨ (0xDFFF < n ∧ n < 0x110000) then some (Char.ofNat n) else none

/-- A code point after the letter of its escape: in braces, or of a fixed number of digits. -/
def readCodePoint (count : Nat) (cs : List Char) : Option (Char × List Char) :=
  match cs with
  | '{' :: rest =>
    match rest.span (· != '}') with
    | (ds, '}' :: after) => (charOfHex? ds).map fun c => (c, after)
    | _ => none
  | _ =>
    if count ≤ cs.length then (charOfHex? (cs.take count)).map fun c => (c, cs.drop count) else none

/-- The word boundary after its letter: a name in braces tells what kind it is, and anything else in
braces is left to stand for a repetition. -/
def readBoundary (cs : List Char) : Option (Assertion × List Char) :=
  let isNamePart (c : Char) : Bool := c.isAlpha || c == '-'
  match cs with
  | '{' :: rest =>
    match rest.span isNamePart with
    | ([], _) => some (.wordBoundary, cs)
    | (name, '}' :: after) =>
      match String.ofList name with
      | "start" => some (.wordStart, after)
      | "end" => some (.wordEnd, after)
      | "start-half" => some (.noWordBefore, after)
      | "end-half" => some (.noWordAfter, after)
      | _ => none
    | _ => none
  | _ => some (.wordBoundary, cs)

/-- An escape after its backslash. -/
def readEscape : List Char → Option (Escape × List Char)
  | [] => none
  | c :: rest =>
    match c with
    | 'd' => some (.named Unicode.decimalDigits, rest)
    | 'D' => some (.named Unicode.decimalDigits.complement, rest)
    | 's' => some (.named Unicode.whiteSpace, rest)
    | 'S' => some (.named Unicode.whiteSpace.complement, rest)
    | 'w' => some (.named Unicode.wordCharacters, rest)
    | 'W' => some (.named Unicode.wordCharacters.complement, rest)
    | 'x' => (readCodePoint 2 rest).map fun (c, after) => (.literal c, after)
    | 'u' => (readCodePoint 4 rest).map fun (c, after) => (.literal c, after)
    | 'U' => (readCodePoint 8 rest).map fun (c, after) => (.literal c, after)
    | 'a' => some (.literal '\x07', rest)
    | 'f' => some (.literal '\x0c', rest)
    | 't' => some (.literal '\t', rest)
    | 'n' => some (.literal '\n', rest)
    | 'r' => some (.literal '\r', rest)
    | 'v' => some (.literal '\x0b', rest)
    | 'A' => some (.assertion .textStart, rest)
    | 'z' => some (.assertion .textEnd, rest)
    | 'b' => (readBoundary rest).map fun (condition, after) => (.assertion condition, after)
    | 'B' => some (.assertion .noWordBoundary, rest)
    | '<' => some (.assertion .wordStart, rest)
    | '>' => some (.assertion .wordEnd, rest)
    | c => if isEscapable c then some (.literal c, rest) else none

/-- One item of a class: a character or a set that has a name. -/
inductive ClassItem
  /-- One character. -/
  | literal (c : Char)
  /-- The characters of a set. -/
  | named (set : CharSet)

/-- The set of an item. -/
def ClassItem.set : ClassItem → CharSet
  | .literal c => .single c
  | .named set => set

/-- One item of a class. -/
def readClassItem : List Char → Option (ClassItem × List Char)
  | [] => none
  | '\\' :: rest =>
    match readEscape rest with
    | some (.literal c, after) => some (.literal c, after)
    | some (.named set, after) => some (.named set, after)
    | _ => none
  | c :: rest => some (.literal c, rest)

/-- An item, or the range that it begins. -/
def readClassRange (cs : List Char) : Option (CharSet × List Char) := do
  let (first, after) ← readClassItem cs
  match after with
  | [] => none
  | '-' :: ']' :: _ => return (first.set, after)
  | '-' :: '-' :: _ => return (first.set, after)
  | '-' :: rest =>
    let (last, after) ← readClassItem rest
    match first, last with
    | .literal a, .literal b => if a ≤ b then return (.range a b, after) else none
    | _, _ => none
  | _ => return (first.set, after)

/-- The sets that have names between colons. -/
def namedSet? (name : String) : Option CharSet :=
  let upper := ('A', 'Z')
  let lower := ('a', 'z')
  let digit := ('0', '9')
  let ranges? := match name with
    | "alnum" => some [digit, upper, lower]
    | "alpha" => some [upper, lower]
    | "ascii" => some [('\x00', '\x7f')]
    | "blank" => some [('\t', '\t'), (' ', ' ')]
    | "cntrl" => some [('\x00', '\x1f'), ('\x7f', '\x7f')]
    | "digit" => some [digit]
    | "graph" => some [('!', '~')]
    | "lower" => some [lower]
    | "print" => some [(' ', '~')]
    | "punct" => some [('!', '/'), (':', '@'), ('[', '\x60'), ('\x7b', '~')]
    | "space" => some [('\t', '\r'), (' ', ' ')]
    | "upper" => some [upper]
    | "word" => some [digit, upper, ('_', '_'), lower]
    | "xdigit" => some [digit, ('A', 'F'), ('a', 'f')]
    | _ => none
  ranges?.map fun ranges => ranges.map fun (first, last) => (first.toNat, last.toNat)

/-- The name of a named set after a caret, and whether the caret is there. -/
def splitCaret : List Char → Bool × List Char
  | '^' :: rest => (true, rest)
  | name => (false, name)

/-- A named set after its opening bracket: a colon, the name, a colon and a closing bracket. -/
def readNamedSet (ignoreCase : Bool) : List Char → Option (CharSet × List Char)
  | ':' :: rest =>
    match rest.span (· != ':') with
    | (body, ':' :: ']' :: after) => do
      let (negated, name) := splitCaret body
      let named ← namedSet? (String.ofList name)
      return ((named.foldedIf ignoreCase).negatedIf negated, after)
    | _ => none
  | _ => none

/-- How deeply a pattern may nest. -/
def nestingLimit : Nat := 250

/-- How deeply the items of a row nest. -/
structure Row where
  /-- The number of items. -/
  count : Nat
  /-- The depth of the deepest item. -/
  depth : Nat

/-- The row without items. -/
def Row.empty : Row := ⟨0, 0⟩

/-- The row with one more item of a given depth. -/
def Row.add (depth : Nat) (row : Row) : Row := ⟨row.count + 1, max row.depth depth⟩

/-- The depth of the whole row, which is one more level unless it is a single item. -/
def Row.closed (row : Row) : Nat := if row.count < 2 then row.depth else row.depth + 1

/-- The operations between the parts of a class. -/
inductive ClassOperation
  /-- Two ampersands. -/
  | intersection
  /-- Two hyphens. -/
  | difference
  /-- Two tildes. -/
  | symmetricDifference

/-- The set that an operation makes of two. -/
def ClassOperation.apply : ClassOperation → CharSet → CharSet → CharSet
  | .intersection => Unicode.Ranges.intersection
  | .difference => Unicode.Ranges.difference
  | .symmetricDifference => Unicode.Ranges.symmetricDifference

/-- The left side of an operation. -/
structure PendingOperation where
  /-- The set on the left, already widened over case. -/
  left : CharSet
  /-- How deeply the left side nests. -/
  depth : Nat
  /-- The operation. -/
  operation : ClassOperation

/-- The part of a class before the place reached: the left side of a pending operation, if there
is one, and the items since. -/
structure PartialClass where
  /-- The pending operation. -/
  pending : Option PendingOperation
  /-- The ranges of the items read since, in any order. -/
  items : List (Nat × Nat)
  /-- How the items nest. -/
  row : Row

/-- A class in which nothing has been read but some characters. -/
def PartialClass.start (lead : List Char) : PartialClass :=
  ⟨none, lead.map fun c => (c.toNat, c.toNat), ⟨lead.length, 0⟩⟩

/-- The set read so far and how deeply it nests; sides of an operation are widened over case before
it applies. -/
def PartialClass.set (ignoreCase : Bool) (c : PartialClass) : CharSet × Nat :=
  let items : CharSet := .ofList c.items
  match c.pending with
  | none => (items, c.row.closed)
  | some pending =>
    (pending.operation.apply pending.left (items.foldedIf ignoreCase),
      max pending.depth c.row.closed + 1)

/-- The class with one more item of a given depth. -/
def PartialClass.add (item : CharSet) (depth : Nat) (c : PartialClass) : PartialClass :=
  ⟨c.pending, item ++ c.items, c.row.add depth⟩

/-- The class at an operation, whose left side is all that was read before. -/
def PartialClass.operate (ignoreCase : Bool) (operation : ClassOperation) (c : PartialClass) :
    PartialClass :=
  let (left, depth) := c.set ignoreCase
  ⟨some ⟨left.foldedIf ignoreCase, depth, operation⟩, [], .empty⟩

/-- Hyphens at the beginning of a class stand for themselves, and so does a closing bracket at the
very beginning. -/
def readClassLead : List Char → List Char × List Char
  | ']' :: rest => ([']'], rest)
  | cs => cs.span (· == '-')

mutual

/-- The parts of a class up to its closing bracket, with the set and how deeply it nests. The fuel
bounds the steps, and another number the classes that may open inside. -/
def readClassParts (ignoreCase : Bool) (fuel : Nat) (room : Nat) (c : PartialClass)
    (cs : List Char) : Option ((CharSet × Nat) × List Char) :=
  match fuel with
  | 0 => none
  | fuel + 1 =>
    match cs with
    | [] => none
    | ']' :: rest => some (c.set ignoreCase, rest)
    | '[' :: rest =>
      match readNamedSet ignoreCase rest with
      | some (set, after) => readClassParts ignoreCase fuel room (c.add set 0) after
      | none =>
        match room with
        | 0 => none
        | room + 1 => do
          let ((set, depth), after) ← readClass ignoreCase fuel room rest
          readClassParts ignoreCase fuel (room + 1) (c.add set depth) after
    | '&' :: '&' :: rest =>
      readClassParts ignoreCase fuel room (c.operate ignoreCase .intersection) rest
    | '-' :: '-' :: rest =>
      readClassParts ignoreCase fuel room (c.operate ignoreCase .difference) rest
    | '~' :: '~' :: rest =>
      readClassParts ignoreCase fuel room (c.operate ignoreCase .symmetricDifference) rest
    | _ => do
      let (set, after) ← readClassRange cs
      readClassParts ignoreCase fuel room (c.add set 0) after

/-- A class after its opening bracket, with its set and how deeply it nests. -/
def readClass (ignoreCase : Bool) (fuel : Nat) (room : Nat) (cs : List Char) :
    Option ((CharSet × Nat) × List Char) :=
  match fuel with
  | 0 => none
  | fuel + 1 => do
    let (negated, cs) := splitCaret cs
    let (lead, cs) := readClassLead cs
    let ((set, depth), after) ← readClassParts ignoreCase fuel room (.start lead) cs
    return (((set.foldedIf ignoreCase).negatedIf negated, depth + 1), after)

end

/-- A count of repetitions, with blanks around it. -/
def readCount (cs : List Char) : Option (Nat × List Char) :=
  let isBlank := Unicode.whiteSpace.contains
  match (cs.dropWhile isBlank).span Char.isDigit with
  | ([], _) => none
  | (ds, rest) =>
    let n := ds.foldl (fun n c => 10 * n + (c.toNat - 48)) 0
    if n < UInt32.size then some (n, rest.dropWhile isBlank) else none

/-- The least and the greatest count of a repetition in braces, after the opening one. -/
def readBounds (cs : List Char) : Option ((Nat × Option Nat) × List Char) := do
  let (least, rest) ← readCount cs
  match rest with
  | '}' :: after => return ((least, some least), after)
  | ',' :: '}' :: after => return ((least, none), after)
  | ',' :: rest =>
    let (greatest, rest) ← readCount rest
    match rest with
    | '}' :: after => if least ≤ greatest then return ((least, some greatest), after) else none
    | _ => none
  | _ => none

/-- The text after the mark of a lazy repetition, which changes no match. -/
def skipLazyMark : List Char → List Char
  | '?' :: rest => rest
  | cs => cs

/-- A part of a pattern and how deeply it nests. -/
structure Part where
  /-- What the part matches. -/
  node : Node
  /-- How deeply it nests. -/
  depth : Nat

/-- The part repeated. -/
def Part.times (part : Part) (least : Nat) (greatest : Option Nat) : Part :=
  ⟨part.node.times least greatest, part.depth + 1⟩

/-- The repetitions behind an item, applied to it one after another; the fuel bounds their
number. -/
def readRepetitions : Nat → Part → List Char → Option (Part × List Char)
  | 0, _, _ => none
  | fuel + 1, body, cs =>
    match cs with
    | '?' :: rest => readRepetitions fuel (body.times 0 (some 1)) (skipLazyMark rest)
    | '*' :: rest => readRepetitions fuel (body.times 0 none) (skipLazyMark rest)
    | '+' :: rest => readRepetitions fuel (body.times 1 none) (skipLazyMark rest)
    | '{' :: rest => do
      let ((least, greatest), after) ← readBounds rest
      readRepetitions fuel (body.times least greatest) (skipLazyMark after)
    | _ => some (body, cs)

/-- The switches set by letters up to a colon or a closing parenthesis, which is returned; each
letter may stand once, and the letters after one hyphen switch off. -/
def readSwitches : List Char → Bool → List Char → Switches → Option (Switches × Char × List Char)
  | _, _, [], _ => none
  | seen, off, c :: rest, switches =>
    if c = ':' ∨ c = ')' then if seen.head? = some '-' then none else some (switches, c, rest)
    else if seen.contains c then none
    else
      match c with
      | '-' => readSwitches ('-' :: seen) true rest switches
      | 'i' => readSwitches ('i' :: seen) off rest { switches with ignoreCase := !off }
      | 'm' => readSwitches ('m' :: seen) off rest { switches with lineAnchors := !off }
      | 's' => readSwitches ('s' :: seen) off rest { switches with dotMatchesAll := !off }
      | 'U' => readSwitches ('U' :: seen) off rest switches
      | 'u' => if off then none else readSwitches ('u' :: seen) off rest switches
      | _ => none

/-- Whether a character may begin the name of a group. -/
def isNameStart (c : Char) : Bool :=
  c == '_' || Unicode.alphabetic.contains c

/-- Whether a character may continue the name of a group. -/
def isNameChar (c : Char) : Bool :=
  isNameStart c || Unicode.numbers.contains c || c == '.' || c == '[' || c == ']'

/-- The name of a group up to its closing angle bracket; a name is used once. -/
def readGroupName (names : List String) (cs : List Char) : Option (String × List Char) :=
  match cs.span (· != '>') with
  | (first :: others, '>' :: after) =>
    let name := String.ofList (first :: others)
    if isNameStart first && others.all isNameChar && !names.contains name then some (name, after)
    else none
  | _ => none

/-- How a parenthesis opens. -/
inductive Opening
  /-- A group with the switches inside it, which may be remembered. -/
  | group (remembered : Bool) (switches : Switches)
  /-- New switches for the rest of the group around it. -/
  | switch (switches : Switches)

/-- What follows an opening parenthesis, with the names used so far. -/
def readOpening (switches : Switches) (names : List String) :
    List Char → Option (Opening × List String × List Char)
  | '?' :: '=' :: _ => none
  | '?' :: '!' :: _ => none
  | '?' :: '<' :: '=' :: _ => none
  | '?' :: '<' :: '!' :: _ => none
  | '?' :: 'P' :: '<' :: rest =>
    (readGroupName names rest).map fun (name, after) => (.group true switches, name :: names, after)
  | '?' :: '<' :: rest =>
    (readGroupName names rest).map fun (name, after) => (.group true switches, name :: names, after)
  | '?' :: ')' :: _ => none
  | '?' :: rest =>
    match readSwitches [] false rest switches with
    | some (inner, ':', after) => some (.group false inner, names, after)
    | some (inner, _, after) => some (.switch inner, names, after)
    | none => none
  | cs => some (.group true switches, names, cs)

/-- The node of an escape outside a class. -/
def Escape.node (switches : Switches) : Escape → Node
  | .literal c => .char ((CharSet.single c).foldedIf switches.ignoreCase)
  | .named set => .char set
  | .assertion condition => .assertion condition

/-- A single item that is no group. -/
def readSimple (switches : Switches) (fuel : Nat) : List Char → Option (Part × List Char)
  | [] => none
  | '\\' :: rest => (readEscape rest).map fun (escape, after) => (⟨escape.node switches, 0⟩, after)
  | '[' :: rest =>
    (readClass switches.ignoreCase fuel nestingLimit rest).map fun ((set, depth), after) =>
      (⟨.char set, depth⟩, after)
  | '.' :: rest =>
    let set : CharSet := if switches.dotMatchesAll then .anyChar else .anyButLineFeed
    some (⟨.char set, 0⟩, rest)
  | '^' :: rest =>
    some (⟨.assertion (if switches.lineAnchors then .lineStart else .textStart), 0⟩, rest)
  | '$' :: rest =>
    some (⟨.assertion (if switches.lineAnchors then .lineEnd else .textEnd), 0⟩, rest)
  | c :: rest => some (⟨.char ((CharSet.single c).foldedIf switches.ignoreCase), 0⟩, rest)

/-- What is in force at a place of a pattern. -/
structure Context where
  /-- The switches. -/
  switches : Switches
  /-- The group names used so far. -/
  names : List String

/-- A row of items or alternatives that has been read in part, the last one first. -/
structure PartialRow where
  /-- What the items match. -/
  nodes : List Node
  /-- How they nest. -/
  row : Row

/-- The row without items. -/
def PartialRow.empty : PartialRow := ⟨[], .empty⟩

/-- The row with one more item. -/
def PartialRow.add (part : Part) (r : PartialRow) : PartialRow :=
  ⟨part.node :: r.nodes, r.row.add part.depth⟩

/-- The items one after another. -/
def PartialRow.sequence (r : PartialRow) : Part := ⟨.ofRow r.nodes.reverse, r.row.closed⟩

/-- The items as alternatives. -/
def PartialRow.choice (r : PartialRow) : Part := ⟨.oneOf r.nodes.reverse, r.row.closed⟩

mutual

/-- Alternatives up to a closing parenthesis or the end, behind those read before. The fuel bounds
the steps, and another number the groups that may open inside. -/
def readAlternatives (fuel : Nat) (room : Nat) (context : Context) (before : PartialRow)
    (cs : List Char) : Option (Part × Context × List Char) :=
  match fuel with
  | 0 => none
  | fuel + 1 => do
    let (branch, context, rest) ← readSequence fuel room context .empty cs
    let branches := before.add branch
    match rest with
    | '|' :: rest => readAlternatives fuel room context branches rest
    | _ => return (branches.choice, context, rest)

/-- Items one after another behind those read before, up to a bar, a closing parenthesis or the
end. -/
def readSequence (fuel : Nat) (room : Nat) (context : Context) (before : PartialRow)
    (cs : List Char) : Option (Part × Context × List Char) :=
  match fuel with
  | 0 => none
  | fuel + 1 =>
    match cs with
    | [] => some (before.sequence, context, cs)
    | ')' :: _ => some (before.sequence, context, cs)
    | '|' :: _ => some (before.sequence, context, cs)
    | '?' :: _ => none
    | '*' :: _ => none
    | '+' :: _ => none
    | '{' :: _ => none
    | '(' :: rest => do
      let (opening, names, after) ← readOpening context.switches context.names rest
      match opening with
      | .switch switches =>
        readSequence fuel room ⟨switches, names⟩ (before.add ⟨.empty, 0⟩) after
      | .group remembered inner =>
        match room with
        | 0 => none
        | room + 1 =>
          let (body, inside, rest) ← readAlternatives fuel room ⟨inner, names⟩ .empty after
          match rest with
          | ')' :: after =>
            let node := if remembered then .group body.node else body.node
            let (item, after) ← readRepetitions fuel ⟨node, body.depth + 1⟩ after
            let context := ⟨context.switches, inside.names⟩
            readSequence fuel (room + 1) context (before.add item) after
          | _ => none
    | _ => do
      let (item, after) ← readSimple context.switches fuel cs
      let (item, after) ← readRepetitions fuel item after
      readSequence fuel room context (before.add item) after

end

/-- What a pattern matches, `none` when its text is no pattern. -/
def parse (source : String) : Option Node := do
  let cs := source.toList
  let fuel := 2 * cs.length + 4
  let (whole, _, rest) ← readAlternatives fuel nestingLimit ⟨.initial, []⟩ .empty cs
  if rest.isEmpty && decide (whole.depth ≤ nestingLimit) && whole.node.fits then some whole.node
  else none

end Pattern

/-- A pattern that was read from its text. -/
structure Pattern where
  /-- The text of the pattern. -/
  source : String
  /-- What the pattern matches. -/
  node : Pattern.Node
  /-- The text denotes what the pattern matches. -/
  parsed : Pattern.parse source = some node

/-- The pattern with a given text, unless the text is no pattern. -/
def Pattern.ofSource? (source : String) : Option Pattern :=
  match h : Pattern.parse source with
  | some node => some ⟨source, node, h⟩
  | none => none

end ValidatedStore
