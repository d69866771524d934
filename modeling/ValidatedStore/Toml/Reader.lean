import ValidatedStore.Toml.Scalar

/-!
# Reading TOML

The reader turns a text into statements. Keys are bare, quoted or dotted; texts are quoted once or
three times, with or without escapes; arrays may run over lines and end in a comma, tables in one
line may not. Keys have fewer than eighty parts, and values nest less than eighty deep. A mark of
the byte order at the beginning is passed over.
-/

namespace ValidatedStore

namespace Toml

/-- Blanks within a line. -/
def isBlank (c : Char) : Bool := c == ' ' || c == '\t'

/-- The text after leading blanks. -/
def skipBlanks (cs : List Char) : List Char := cs.dropWhile isBlank

/-- Characters that may stand in comments and in texts; controls other than the tab may not. -/
def isPlain (c : Char) : Bool := c == '\t' || (decide (32 ≤ c.toNat) && c != '\x7f')

/-- The character with a code point in hexadecimal digits, unless there is none. -/
def charOfCode? (ds : List Char) : Option Char :=
  if ds.all (isDigitOf 16) then
    let n := valueOf 16 ds
    if n < 0xD800 ∨ (0xDFFF < n ∧ n < 0x110000) then some (Char.ofNat n) else none
  else none

/-- The character behind a one-letter escape. -/
def shortEscape? : Char → Option Char
  | 'b' => some '\x08'
  | 't' => some '\t'
  | 'n' => some '\n'
  | 'f' => some '\x0c'
  | 'r' => some '\r'
  | '"' => some '"'
  | '\\' => some '\\'
  | _ => none

/-- A text in double quotes after the opening one. -/
def readBasic : List Char → Option (List Char × List Char)
  | [] => none
  | '"' :: rest => some ([], rest)
  | '\\' :: 'u' :: a :: b :: c :: d :: rest => do
    let char ← charOfCode? [a, b, c, d]
    let (text, after) ← readBasic rest
    return (char :: text, after)
  | '\\' :: 'U' :: a :: b :: c :: d :: e :: f :: g :: h :: rest => do
    let char ← charOfCode? [a, b, c, d, e, f, g, h]
    let (text, after) ← readBasic rest
    return (char :: text, after)
  | '\\' :: letter :: rest => do
    let char ← shortEscape? letter
    let (text, after) ← readBasic rest
    return (char :: text, after)
  | c :: rest =>
    if isPlain c then do
      let (text, after) ← readBasic rest
      return (c :: text, after)
    else none

/-- A text in single quotes after the opening one. -/
def readLiteral : List Char → Option (List Char × List Char)
  | [] => none
  | '\'' :: rest => some ([], rest)
  | c :: rest =>
    if isPlain c then do
      let (text, after) ← readLiteral rest
      return (c :: text, after)
    else none

/-- Where the reader of a text over lines stands. -/
inductive Continuation
  /-- In the text. -/
  | inText
  /-- After a backslash, before the end of the line. -/
  | beforeLineEnd
  /-- After a backslash and the end of the line. -/
  | afterLineEnd
deriving DecidableEq

/-- The quotes of a closing run that belong to the text, and what follows the run. -/
def closingQuotes (quote : Char) : List Char → List Char × List Char
  | a :: b :: rest =>
    if a = quote ∧ b = quote then ([quote, quote], rest)
    else if a = quote then ([quote], b :: rest)
    else ([], a :: b :: rest)
  | [a] => if a = quote then ([quote], []) else ([], [a])
  | [] => ([], [])

/-- A text in three double quotes after the opening ones. A backslash at the end of a line takes
away the line end and all blanks and line ends after it; up to two quotes may stand before the
closing ones. -/
def readBasicLines : Continuation → List Char → Option (List Char × List Char)
  | _, [] => none
  | .beforeLineEnd, c :: rest =>
    if isBlank c then readBasicLines .beforeLineEnd rest
    else if c = '\n' then readBasicLines .afterLineEnd rest
    else
      match c, rest with
      | '\r', '\n' :: rest => readBasicLines .afterLineEnd rest
      | _, _ => none
  | _, '"' :: '"' :: '"' :: rest => some (closingQuotes '"' rest)
  | _, '\\' :: 'u' :: a :: b :: c :: d :: rest => do
    let char ← charOfCode? [a, b, c, d]
    let (text, after) ← readBasicLines .inText rest
    return (char :: text, after)
  | _, '\\' :: 'U' :: a :: b :: c :: d :: e :: f :: g :: h :: rest => do
    let char ← charOfCode? [a, b, c, d, e, f, g, h]
    let (text, after) ← readBasicLines .inText rest
    return (char :: text, after)
  | _, '\\' :: letter :: rest =>
    match shortEscape? letter with
    | some char => do
      let (text, after) ← readBasicLines .inText rest
      return (char :: text, after)
    | none => readBasicLines .beforeLineEnd (letter :: rest)
  | state, '\r' :: '\n' :: rest =>
    if state = .afterLineEnd then readBasicLines .afterLineEnd rest
    else do
      let (text, after) ← readBasicLines .inText rest
      return ('\n' :: text, after)
  | state, c :: rest =>
    if state = .afterLineEnd ∧ (isBlank c ∨ c = '\n') then readBasicLines .afterLineEnd rest
    else if isPlain c ∨ c = '\n' then do
      let (text, after) ← readBasicLines .inText rest
      return (c :: text, after)
    else none

/-- A text in three single quotes after the opening ones. -/
def readLiteralLines : List Char → Option (List Char × List Char)
  | [] => none
  | '\'' :: '\'' :: '\'' :: rest => some (closingQuotes '\'' rest)
  | '\r' :: '\n' :: rest => do
    let (text, after) ← readLiteralLines rest
    return ('\n' :: text, after)
  | c :: rest =>
    if isPlain c ∨ c = '\n' then do
      let (text, after) ← readLiteralLines rest
      return (c :: text, after)
    else none

/-- The text after a line end, if it begins with one. -/
def afterLineEnd? : List Char → Option (List Char)
  | '\n' :: rest => some rest
  | '\r' :: '\n' :: rest => some rest
  | _ => none

/-- The text without a line end at its beginning. -/
def skipLineEnd (cs : List Char) : List Char := (afterLineEnd? cs).getD cs

/-- A text with its quotes, if one begins here. -/
def readText : List Char → Option (List Char × List Char)
  | '"' :: '"' :: '"' :: rest => readBasicLines .inText (skipLineEnd rest)
  | '"' :: rest => readBasic rest
  | '\'' :: '\'' :: '\'' :: rest => readLiteralLines (skipLineEnd rest)
  | '\'' :: rest => readLiteral rest
  | _ => none

/-- Characters of bare keys. -/
def isBareChar (c : Char) : Bool := c.isAlphanum || c == '_' || c == '-'

/-- One part of a key. -/
def readKeyPart (cs : List Char) : Option (String × List Char) :=
  match cs with
  | '"' :: rest => (readBasic rest).map fun (text, after) => (String.ofList text, after)
  | '\'' :: rest => (readLiteral rest).map fun (text, after) => (String.ofList text, after)
  | _ =>
    match cs.span isBareChar with
    | ([], _) => none
    | (name, after) => some (String.ofList name, after)

/-- The greatest number of parts of a key, and of arrays and tables in one line that a value may
stand in. -/
def nestingLimit : Nat := 79

/-- The parts of a key with its dots, and the text after the blanks behind it; the fuel bounds the
number of parts. -/
def readKeyParts : Nat → List Char → Option (List String × List Char)
  | 0, _ => none
  | fuel + 1, cs => do
    let (part, after) ← readKeyPart (skipBlanks cs)
    match skipBlanks after with
    | '.' :: rest =>
      let (parts, after) ← readKeyParts fuel rest
      return (part :: parts, after)
    | after => return ([part], after)

/-- A key with its dots, and the text after the blanks behind it. -/
def readKey (cs : List Char) : Option (List String × List Char) := readKeyParts nestingLimit cs

/-- The text after a comment, which ends before the end of its line. -/
def skipComment (cs : List Char) : List Char :=
  match cs with
  | '#' :: rest => rest.dropWhile isPlain
  | _ => cs

/-- The text after blanks, line ends and comments; the fuel bounds the lines. -/
def skipLines : Nat → List Char → List Char
  | 0, cs => cs
  | fuel + 1, cs =>
    let rest := skipComment (skipBlanks cs)
    match afterLineEnd? rest with
    | some after => skipLines fuel after
    | none => rest

/-- The table of the pairs of a table in one line. -/
def inlineEntries (pairs : List (List String × Value)) : Option Entries :=
  pairs.foldlM (fun entries pair => define pair.2 true pair.1 entries) []

mutual

/-- A value. The fuel bounds the steps, and another number how deep the value may nest. -/
def readValue (fuel : Nat) (room : Nat) (cs : List Char) : Option (Value × List Char) :=
  match fuel with
  | 0 => none
  | fuel + 1 =>
    match cs, room with
    | '"' :: _, _ => (readText cs).map fun (text, after) => (.string (String.ofList text), after)
    | '\'' :: _, _ => (readText cs).map fun (text, after) => (.string (String.ofList text), after)
    | '[' :: _, 0 => none
    | '{' :: _, 0 => none
    | '[' :: rest, room + 1 => do
      let (items, after) ← readItems fuel room rest
      return (.array items, after)
    | '{' :: rest, room + 1 =>
      match skipBlanks rest with
      | '}' :: after => some (.inlineTable [], after)
      | pairs => do
        let (pairs, after) ← readPairs fuel room pairs
        let _ ← inlineEntries pairs
        return (.inlineTable (pairs.map fun pair => (".".intercalate pair.1, pair.2)), after)
    | _, _ =>
      let (token, after) := spanToken cs
      (scalar? token).map fun value => (value, after)

/-- The items of an array through its closing bracket. -/
def readItems (fuel : Nat) (room : Nat) (cs : List Char) : Option (List Value × List Char) :=
  match fuel with
  | 0 => none
  | fuel + 1 =>
    match skipLines cs.length cs with
    | ']' :: after => some ([], after)
    | item => do
      let (value, after) ← readValue fuel room item
      match skipLines after.length after with
      | ',' :: rest =>
        let (values, after) ← readItems fuel room rest
        return (value :: values, after)
      | ']' :: after => return ([value], after)
      | _ => none

/-- The pairs of a table in one line through its closing brace. -/
def readPairs (fuel : Nat) (room : Nat) (cs : List Char) :
    Option (List (List String × Value) × List Char) :=
  match fuel with
  | 0 => none
  | fuel + 1 => do
    let (key, after) ← readKey cs
    match after with
    | '=' :: rest =>
      let (value, after) ← readValue fuel room (skipBlanks rest)
      match skipBlanks after with
      | ',' :: rest =>
        let (pairs, after) ← readPairs fuel room rest
        return ((key, value) :: pairs, after)
      | '}' :: after => return ([(key, value)], after)
      | _ => none
    | _ => none

end

/-- One statement. -/
def readStatement (cs : List Char) : Option (Statement × List Char) :=
  match cs with
  | '[' :: '[' :: rest => do
    let (key, after) ← readKey rest
    match after with
    | ']' :: ']' :: after => return (.openElement key, after)
    | _ => none
  | '[' :: rest => do
    let (key, after) ← readKey rest
    match after with
    | ']' :: after => return (.openTable key, after)
    | _ => none
  | _ => do
    let (key, after) ← readKey cs
    match after with
    | '=' :: rest =>
      let (value, after) ← readValue (2 * rest.length + 2) nestingLimit (skipBlanks rest)
      return (.assign key value, after)
    | _ => none

/-- The statements of a document, one a line; the fuel bounds the lines. -/
def readStatements : Nat → List Char → Option (List Statement)
  | 0, _ => none
  | fuel + 1, cs =>
    match skipLines cs.length cs with
    | [] => some []
    | begun => do
      let (statement, after) ← readStatement begun
      let rest := skipComment (skipBlanks after)
      if rest.isEmpty then return [statement]
      else
        let after ← afterLineEnd? rest
        let statements ← readStatements fuel after
        return statement :: statements

/-- The text after a mark of the byte order. -/
def skipByteOrderMark : List Char → List Char
  | '\ufeff' :: rest => rest
  | cs => cs

/-- The root table of a text, `none` when the text is no TOML. -/
def parse (text : String) : Option Entries := do
  let cs := skipByteOrderMark text.toList
  let statements ← readStatements (cs.length + 1) cs
  tableOf statements

end Toml

end ValidatedStore
