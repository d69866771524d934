import ValidatedStore.Graph
import ValidatedStore.Inspect.Text

/-!
# Inspected graph nodes

A leaf is shown with its content, a container only with the number of its entries, so that the
text of a node in a circular graph is finite.
-/

namespace ValidatedStore

namespace Inspect

/-- A node of a graph. -/
def node (heap : Heap) : Node → String
  | .null => "Null"
  | .bool b => "Bool(" ++ bool b ++ ")"
  | .number n => "Number(" ++ String.ofList n.text ++ ")"
  | .string s => "String(" ++ text s ++ ")"
  | .function => "Function"
  | .container address =>
    match heap[address]? with
    | some (.array items) => "Array(<" ++ toString items.length ++ " items>)"
    | some (.object entries) => "Object(<" ++ toString entries.length ++ " keys>)"
    | none => "Null"

end Inspect

end ValidatedStore
