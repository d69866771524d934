import ValidatedStore.Pattern.CharSet

/-!
# The syntax of patterns

A pattern describes stretches of a text. The laziness of repetitions leaves no trace: a pattern is
only ever asked whether some stretch of a text matches. Rows, alternatives and repetitions are put
together in their plainest form.
-/

namespace ValidatedStore

namespace Pattern

/-- Conditions on the place between two characters. -/
inductive Assertion
  /-- The beginning of the text. -/
  | textStart
  /-- The end of the text. -/
  | textEnd
  /-- The beginning of a line. -/
  | lineStart
  /-- The end of a line. -/
  | lineEnd
  /-- A word character stands on exactly one side. -/
  | wordBoundary
  /-- A word character stands on both sides or on neither. -/
  | noWordBoundary
  /-- A word begins here. -/
  | wordStart
  /-- A word ends here. -/
  | wordEnd
  /-- No word character stands before. -/
  | noWordBefore
  /-- No word character stands behind. -/
  | noWordAfter
deriving DecidableEq

/-- What a pattern matches. -/
inductive Node
  /-- The empty stretch. -/
  | empty
  /-- One character of a set. -/
  | char (set : CharSet)
  /-- The empty stretch, where a condition holds. -/
  | assertion (condition : Assertion)
  /-- One stretch after the other. -/
  | concat (first second : Node)
  /-- Either kind of stretch. -/
  | either (first second : Node)
  /-- A stretch whose place is remembered. -/
  | group (body : Node)
  /-- A number of stretches in a row, with an optional greatest number. -/
  | repeated (body : Node) (least : Nat) (greatest : Option Nat)

namespace Node

/-- One stretch after the other, without empty ones. -/
def followedBy : Node → Node → Node
  | .empty, second => second
  | first, .empty => first
  | first, second => .concat first second

/-- Stretches in a row. -/
def ofRow (items : List Node) : Node := items.foldl followedBy .empty

/-- The alternatives of a node, in front of others. -/
def alternatives : Node → List Node → List Node
  | .either first second, others => first.alternatives (second.alternatives others)
  | node, others => node :: others

/-- The set of a node that matches single characters of a set. -/
def set? : Node → Option CharSet
  | .char set => some set
  | _ => none

/-- Several alternatives. Alternatives of single characters, and those of wider sets, are one
set. -/
def oneOf (branches : List Node) : Node :=
  let branches := branches.foldr alternatives []
  match branches.mapM set? with
  | some sets =>
    if sets.all (·.only?.isSome) || sets.all (·.only?.isNone) then .char (.ofList sets.flatten)
    else joined branches
  | none => joined branches
where
  /-- The alternatives as a nested choice. -/
  joined : List Node → Node
    | [] => .empty
    | [node] => node
    | node :: others => .either node (joined others)

/-- Whether only the empty stretch can match. -/
def isHollow : Node → Bool
  | .empty => true
  | .char _ => false
  | .assertion _ => true
  | .concat first second => second.isHollow && first.isHollow
  | .either first second => first.isHollow && second.isHollow
  | .group body => body.isHollow
  | .repeated body _ _ => body.isHollow

/-- A number of stretches in a row. More than one empty stretch is no more than one, none at all is
the empty stretch, and exactly one is the stretch itself. -/
def times (body : Node) (least : Nat) (greatest : Option Nat) : Node :=
  let (least, greatest) :=
    if body.isHollow then (min least 1, some ((greatest.map (min · 1)).getD 1))
    else (least, greatest)
  match least, greatest with
  | 0, some 0 => .empty
  | 1, some 1 => body
  | _, _ => .repeated body least greatest

end Node

end Pattern

end ValidatedStore
