import ValidatedStore.Pattern.Syntax
import ValidatedStore.Unicode.ByteRows

/-!
# The room that a pattern takes

A pattern is searched for byte by byte, by one automaton that reads forward and another that reads
backward, and it is refused when one of them takes more than ten mebibytes. A state takes
thirty-two bytes, a state with a table eight more for each of its ranges, and a fork four more for
each of its branches. Only the forward automaton remembers groups, at two states each. A set of
characters beyond ASCII has a forward automaton without equal states, and a backward one in which
rows of byte ranges share their beginnings.
-/

namespace ValidatedStore

namespace Pattern

/-- The direction in which an automaton reads. -/
inductive Direction
  /-- From the beginning to the end. -/
  | forward
  /-- From the end to the beginning. -/
  | backward
deriving DecidableEq

/-- The room of a state. -/
def stateRoom : Nat := 32

/-- The room of a state with a table of ranges. -/
def tableRoom (ranges : Nat) : Nat := stateRoom + 8 * ranges

/-- The room of a fork. -/
def forkRoom (branches : Nat) : Nat := stateRoom + 4 * branches

/-- The tables of an automaton, each a list of byte ranges with the number of the table that
follows, or zero at the end of a row. -/
abbrev Tables := Array (List ((Nat × Nat) × Nat))

/-- The number of a table that reads some rows, and the tables with those that were missing; the
fuel bounds the length of the rows. -/
def addRows : Nat → List Unicode.ByteRow → Tables → Nat × Tables
  | 0, _, tables => (0, tables)
  | fuel + 1, rows, tables =>
    let groups := rows.splitBy fun a b => a.head? == b.head?
    let (table, tables) := groups.foldl (addGroup fuel) ([], tables)
    match tables.idxOf? table with
    | some i => (i + 1, tables)
    | none => (tables.size + 1, tables.push table)
where
  /-- Add an entry for the rows that begin with the same range. -/
  addGroup (fuel : Nat) (entries : List ((Nat × Nat) × Nat) × Tables)
      (group : List Unicode.ByteRow) : List ((Nat × Nat) × Nat) × Tables :=
    match group with
    | [] => entries
    | [] :: _ => entries
    | [range] :: _ => ((range, 0) :: entries.1, entries.2)
    | (range :: _) :: _ =>
      let (next, tables) := addRows fuel (group.map List.tail) entries.2
      ((range, next) :: entries.1, tables)

/-- How many ranges two rows share at their beginnings. -/
def sharedLength : Unicode.ByteRow → Unicode.ByteRow → Nat
  | a :: as, b :: bs => if a = b then sharedLength as bs + 1 else 0
  | _, _ => 0

/-- The room of the part of an automaton that reads one character of a set. -/
def CharSet.room (direction : Direction) (set : CharSet) : Nat :=
  match set.only? with
  | some n => (Unicode.encode n).length * stateRoom
  | none =>
    if set.isAscii then stateRoom + tableRoom set.length
    else
      let rows := set.byteRows
      match direction with
      | .forward =>
        (addRows 4 rows #[]).2.foldl (fun room table => room + tableRoom table.length) stateRoom
      | .backward =>
        let states := (rows.zip ([] :: rows)).foldl
          (fun states (row, before) => states + (row.length - sharedLength before row)) 0
        stateRoom + forkRoom rows.length + states * stateRoom

/-- The bytes of a node that matches one text alone. -/
def Node.bytes? : Node → Option (List Nat)
  | .char set => set.only?.map Unicode.encode
  | .concat first second => do return (← first.bytes?) ++ (← second.bytes?)
  | _ => none

/-- Split texts at the empty ones. -/
def splitAtEmpty (texts : List (List Nat)) : List (List (List Nat)) :=
  texts.foldr
    (fun text chunks =>
      match text, chunks with
      | [], _ => [] :: chunks
      | _, [] => [[text]]
      | _, chunk :: others => (text :: chunk) :: others)
    [[]]

/-- The room of the part of an automaton that reads one of several texts, in which texts share
their beginnings; the fuel bounds their length. -/
def textsRoom : Nat → List (List Nat) → Nat
  | 0, _ => 0
  | fuel + 1, texts =>
    if texts.all List.isEmpty then 0
    else
      let chunks := splitAtEmpty texts
      let rooms := chunks.map fun chunk =>
        match (chunk.filterMap List.head?).eraseDups with
        | [] => 0
        | firsts =>
          let table := if firsts.length = 1 then stateRoom else tableRoom firsts.length
          let behind := firsts.map fun first =>
            textsRoom fuel <| chunk.filterMap fun text =>
              if text.head? = some first then some text.tail else none
          table + 4 + behind.sum
      forkRoom (chunks.length - 1) + rooms.sum

namespace Node

/-- Whether each match has at least one character. -/
def consumes : Node → Bool
  | .empty => false
  | .char _ => true
  | .assertion _ => false
  | .concat first second => first.consumes || second.consumes
  | .either first second => first.consumes && second.consumes
  | .group body => body.consumes
  | .repeated body least _ => decide (0 < least) && body.consumes

/-- Whether the end of a match that an automaton reads first is always an end of the text. -/
def isAnchored (direction : Direction) : Node → Bool
  | .assertion .textStart => direction == .forward
  | .assertion .textEnd => direction == .backward
  | .concat first second =>
    match direction with
    | .forward => first.isAnchored direction || (first.isHollow && second.isAnchored direction)
    | .backward => second.isAnchored direction || (second.isHollow && first.isAnchored direction)
  | .either first second => first.isAnchored direction && second.isAnchored direction
  | .group body => body.isAnchored direction
  | .repeated body least _ => decide (0 < least) && body.isAnchored direction
  | _ => false

/-- The room of a repetition of a body with a given room. -/
def repeatedRoom (room : Nat) (consumes : Bool) : Nat → Option Nat → Nat
  | 0, some 1 => forkRoom 2 + room + stateRoom
  | 0, none => if consumes then forkRoom 2 + room else room + 2 * forkRoom 2 + stateRoom
  | least, none => least * room + forkRoom 2
  | least, some most =>
    (if least = 0 then stateRoom else least * room)
      + if least < most then stateRoom + (most - least) * (forkRoom 2 + room) else 0

/-- Add the room of a node to that of others. Alternatives that stand among others need a branch
each, and share their fork with them. -/
def addRoom (direction : Direction) : Bool → Node → Nat → Nat
  | true, .either first second, room =>
    first.addRoom direction true (second.addRoom direction true room)
  | false, .either first second, room =>
    match ((Node.either first second).alternatives []).mapM bytes? with
    | some texts =>
      let texts := match direction with
        | .forward => texts
        | .backward => texts.map List.reverse
      let fuel := (texts.map List.length).foldl max 0 + 1
      room + stateRoom + textsRoom fuel texts
    | none =>
      let room := room + forkRoom 0 + stateRoom
      first.addRoom direction true (second.addRoom direction true room)
  | inside, node, room =>
    let room := if inside then room + 4 else room
    match node with
    | .empty => room + stateRoom
    | .char set => room + set.room direction
    | .assertion _ => room + stateRoom
    | .concat first second => first.addRoom direction false (second.addRoom direction false room)
    | .group body =>
      let room := match direction with
        | .forward => room + 2 * stateRoom
        | .backward => room
      body.addRoom direction false room
    | .repeated body least greatest =>
      room + repeatedRoom (body.addRoom direction false 0) body.consumes least greatest
    | .either _ _ => room

/-- The room of the automaton of a pattern. Unless it is anchored, a loop in front of it skips what
stands outside the match. -/
def room (direction : Direction) (node : Node) : Nat :=
  let lead :=
    if node.isAnchored direction then stateRoom else forkRoom 2 + stateRoom + tableRoom 1
  let whole : Node := .group node
  whole.addRoom direction false (lead + stateRoom)

/-- The greatest room that the automaton of a pattern may take. -/
def greatestRoom : Nat := 10 * 1024 * 1024

/-- Whether the automata of a pattern do not take too much room. -/
def fits (node : Node) : Bool :=
  decide (node.room .forward ≤ greatestRoom) && decide (node.room .backward ≤ greatestRoom)

end Node

end Pattern

end ValidatedStore
