import ValidatedStore.Inspect.Text
import ValidatedStore.Value

/-!
# Inspected values

A value is shown with the name of its kind, so that a text and a number with the same digits can
be told apart.
-/

namespace ValidatedStore

namespace Inspect

mutual

/-- A value. -/
def value : Value → String
  | .null => "Null"
  | .bool b => "Bool(" ++ bool b ++ ")"
  | .number n => "Number(" ++ String.ofList n.text ++ ")"
  | .string s => "String(" ++ text s ++ ")"
  | .array items => "Array " ++ sequence (itemTexts items)
  | .object entries => "Object \x7b" ++ ", ".intercalate (entryTexts entries) ++ "\x7d"

/-- The values of a sequence. -/
def itemTexts : List Value → List String
  | [] => []
  | item :: rest => value item :: itemTexts rest

/-- The entries of an object. -/
def entryTexts : List (String × Value) → List String
  | [] => []
  | (key, inner) :: rest => (text key ++ ": " ++ value inner) :: entryTexts rest

end

end Inspect

end ValidatedStore
