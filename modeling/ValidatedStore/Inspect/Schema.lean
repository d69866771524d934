import ValidatedStore.Inspect.Value
import ValidatedStore.Schema

/-!
# Inspected schemas

A schema is shown as a record of its options inside the name of its kind.
-/

namespace ValidatedStore

namespace Inspect

/-- A pattern. -/
def pattern (p : Pattern) : String := "Regex(" ++ text p.source ++ ")"

/-- A bound of numbers. -/
def bound (x : Binary64.Extended) : String := String.ofList (Layout.inspection.extendedText x)

/-- A kind of schema with its options. -/
def options (kind : String) (fields : List (String × String)) : String :=
  kind ++ "(" ++ record (kind ++ "Type") fields ++ ")"

mutual

/-- A schema. -/
def schema : Schema → String
  | .any fallback => options "Any" [("default", optional value (some fallback))]
  | .boolean fallback => options "Boolean" [("default", value fallback)]
  | .string rule fallback =>
    options "String" [
      ("min_length", toString rule.minLength),
      ("max_length", optional toString rule.maxLength),
      ("pattern", optional pattern rule.pattern),
      ("default", value fallback)]
  | .number rule fallback =>
    options "Number" [
      ("min", bound rule.min),
      ("max", bound rule.max),
      ("integer", bool rule.integral),
      ("default", value fallback)]
  | .nullable null absent =>
    options "Nullable" [
      ("null", bool null),
      ("undefined", bool absent),
      ("default", optional value (if null then some .null else none))]
  | .openRecord fallback =>
    options "Dictionary" [("fields", "None"), ("default", value fallback)]
  | .record fields fallback =>
    options "Dictionary" [
      ("fields", "Some(" ++ sequence (fieldTexts fields) ++ ")"),
      ("default", value fallback)]
  | .list item fallback =>
    options "List" [("element", schema item), ("default", value fallback)]
  | .union members fallback =>
    options "Union" [
      ("members", sequence (memberTexts members)),
      ("default", optional value fallback)]

/-- Declared fields. -/
def fieldTexts : List (String × Schema) → List String
  | [] => []
  | (name, inner) :: rest => ("(" ++ text name ++ ", " ++ schema inner ++ ")") :: fieldTexts rest

/-- The members of a union. -/
def memberTexts : List Schema → List String
  | [] => []
  | member :: rest => schema member :: memberTexts rest

end

end Inspect

end ValidatedStore
