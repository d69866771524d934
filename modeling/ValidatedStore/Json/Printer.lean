import ValidatedStore.Value

/-!
# Compact JSON text

Values are written without blanks, object entries in their order. Text is quoted with short
escapes where JSON has them, four hexadecimal digits for the other characters below the blank,
and every remaining character as it is.
-/

namespace ValidatedStore

namespace Json

/-- A hexadecimal digit in lower case. -/
def hexDigit (n : Nat) : Char := if n < 10 then Char.ofNat (48 + n) else Char.ofNat (87 + n)

/-- One character inside a quoted text. -/
def escapedChar (c : Char) : List Char :=
  match c with
  | '"' => ['\\', '"']
  | '\\' => ['\\', '\\']
  | '\n' => ['\\', 'n']
  | '\r' => ['\\', 'r']
  | '\t' => ['\\', 't']
  | '\x08' => ['\\', 'b']
  | '\x0c' => ['\\', 'f']
  | c =>
    if c.toNat < 32 then ['\\', 'u', '0', '0', hexDigit (c.toNat / 16), hexDigit (c.toNat % 16)]
    else [c]

/-- A text in quotes. -/
def quoted (s : String) : List Char := '"' :: s.toList.flatMap escapedChar ++ ['"']

mutual

/-- The compact text of a value. -/
def printed : Value → List Char
  | .null => "null".toList
  | .bool true => "true".toList
  | .bool false => "false".toList
  | .number n => n.text
  | .string s => quoted s
  | .array items => '[' :: printedItems items ++ [']']
  | .object entries => '{' :: printedEntries entries ++ ['}']

/-- The texts of a sequence, separated by commas. -/
def printedItems : List Value → List Char
  | [] => []
  | [item] => printed item
  | item :: rest => printed item ++ ',' :: printedItems rest

/-- The entries of an object, separated by commas. -/
def printedEntries : List (String × Value) → List Char
  | [] => []
  | [(key, value)] => quoted key ++ ':' :: printed value
  | (key, value) :: rest => quoted key ++ ':' :: printed value ++ ',' :: printedEntries rest

end

/-- The compact JSON text of a value. -/
def print (value : Value) : String := String.ofList (printed value)

end Json

end ValidatedStore
