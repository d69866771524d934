import ValidatedStore.Unicode.Unprintable

/-!
# Inspected texts

Inspection shows a text in quotes so that every character can be told: quotes, backslashes, line
ends, tabs and the zero character have short escapes, and characters without a shape of their own
are shown by their code point.
-/

namespace ValidatedStore

namespace Inspect

/-- One character of an inspected text. -/
def escapedChar (c : Char) : List Char :=
  match c with
  | '"' => ['\\', '"']
  | '\\' => ['\\', '\\']
  | '\n' => ['\\', 'n']
  | '\r' => ['\\', 'r']
  | '\t' => ['\\', 't']
  | '\x00' => ['\\', '0']
  | c =>
    if Unicode.unprintable.contains c then '\\' :: 'u' :: '{' :: Nat.toDigits 16 c.toNat ++ ['}']
    else [c]

/-- A text in quotes. -/
def text (s : String) : String :=
  String.ofList ('"' :: s.toList.flatMap escapedChar ++ ['"'])

/-- Something that may be missing. -/
def optional {α : Type} (render : α → String) : Option α → String
  | none => "None"
  | some a => "Some(" ++ render a ++ ")"

/-- A truth value. -/
def bool (b : Bool) : String := if b then "true" else "false"

/-- A sequence in brackets. -/
def sequence (items : List String) : String := "[" ++ ", ".intercalate items ++ "]"

/-- A record: its name and its fields. -/
def record (name : String) (fields : List (String × String)) : String :=
  name ++ " \x7b " ++ ", ".intercalate (fields.map fun field => field.1 ++ ": " ++ field.2) ++
    " \x7d"

end Inspect

end ValidatedStore
