import ValidatedStore.Fields

/-!
# Writing TOML texts

A text is put into the plainest quotes that hold it without escapes: double quotes, single quotes,
three double quotes, three single quotes. A text that needs escapes goes into double quotes, three
of them when it has line ends. After three quotes a text with line ends begins on a new line.
-/

namespace ValidatedStore

namespace Toml

/-- The length of the longest run of a character. -/
def longestRun (c : Char) : Nat → List Char → Nat
  | run, [] => run
  | run, d :: rest => if d = c then longestRun c (run + 1) rest else max run (longestRun c 0 rest)

/-- Whether a character can only be written by an escape. -/
def needsEscape (c : Char) : Bool :=
  (decide (c.toNat < 32) && c != '\n' && c != '\t') || c == '\x7f'

/-- The ways to quote a text. -/
inductive Quoting
  /-- In double quotes, with escapes. -/
  | basic
  /-- In single quotes, as it is. -/
  | literal
  /-- In three double quotes, with escapes. -/
  | basicLines
  /-- In three single quotes, as it is. -/
  | literalLines
deriving DecidableEq

/-- The plainest way to quote a text. -/
def quotingFor (cs : List Char) : Quoting :=
  let escapes := cs.any needsEscape
  let backslash := cs.contains '\\'
  let lines := cs.contains '\n'
  let doubles := longestRun '"' 0 cs
  let singles := longestRun '\'' 0 cs
  if !escapes && !backslash && !lines && doubles = 0 then .basic
  else if !escapes && !lines && singles = 0 then .literal
  else if !escapes && !backslash && decide (doubles ≤ 2) then .basicLines
  else if !escapes && decide (singles ≤ 2) then .literalLines
  else if lines then .basicLines
  else .basic

/-- A hexadecimal digit in upper case. -/
def upperHexDigit (n : Nat) : Char := if n < 10 then Char.ofNat (48 + n) else Char.ofNat (55 + n)

/-- One character with its escape; line ends stay as they are in a text over lines. -/
def escapedChar (overLines : Bool) (c : Char) : List Char :=
  match c with
  | '\x08' => ['\\', 'b']
  | '\t' => ['\\', 't']
  | '\n' => if overLines then ['\n'] else ['\\', 'n']
  | '\x0c' => ['\\', 'f']
  | '\r' => ['\\', 'r']
  | '\\' => ['\\', '\\']
  | c =>
    if needsEscape c then
      ['\\', 'u', '0', '0', upperHexDigit (c.toNat / 16), upperHexDigit (c.toNat % 16)]
    else [c]

/-- A text with its escapes; of a run of double quotes as many stay bare as may stand in the
text, and `run` counts those just before. -/
def escaped (overLines : Bool) : Nat → List Char → List Char
  | _, [] => []
  | run, c :: rest =>
    if c = '"' then
      if run < (if overLines then 2 else 0) then '"' :: escaped overLines (run + 1) rest
      else '\\' :: '"' :: escaped overLines 0 rest
    else escapedChar overLines c ++ escaped overLines 0 rest

/-- The line end after three quotes, when the text has line ends. -/
def leadingLineEnd (cs : List Char) : List Char := if cs.contains '\n' then ['\n'] else []

/-- A text with its quotes. -/
def quoted (text : String) : List Char :=
  let cs := text.toList
  match quotingFor cs with
  | .basic => '"' :: escaped false 0 cs ++ ['"']
  | .literal => '\'' :: cs ++ ['\'']
  | .basicLines =>
    "\"\"\"".toList ++ leadingLineEnd cs ++ escaped true 0 cs ++ "\"\"\"".toList
  | .literalLines => "'''".toList ++ leadingLineEnd cs ++ cs ++ "'''".toList

end Toml

end ValidatedStore
