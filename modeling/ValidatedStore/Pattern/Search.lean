import ValidatedStore.Pattern.Automaton

/-!
# Searching a text for a pattern

Places of a text are numbered from zero to its length. A search goes once through the text and
keeps the set of states that some match in progress has reached, each state once a place, so that
its length grows with the text and the automaton and with nothing else.
-/

namespace ValidatedStore

namespace Pattern

/-- Whether the character before a place belongs to a word. -/
def wordBefore (text : Array Char) (place : Nat) : Bool :=
  decide (0 < place) && (text[place - 1]?).any Unicode.wordCharacters.contains

/-- Whether the character after a place belongs to a word. -/
def wordAfter (text : Array Char) (place : Nat) : Bool :=
  (text[place]?).any Unicode.wordCharacters.contains

/-- Whether a condition holds at a place. -/
def Assertion.holds (text : Array Char) (place : Nat) : Assertion → Bool
  | .textStart => place == 0
  | .textEnd => place == text.size
  | .lineStart => place == 0 || text[place - 1]? == some '\n'
  | .lineEnd => place == text.size || text[place]? == some '\n'
  | .wordBoundary => wordBefore text place != wordAfter text place
  | .noWordBoundary => wordBefore text place == wordAfter text place
  | .wordStart => !wordBefore text place && wordAfter text place
  | .wordEnd => wordBefore text place && !wordAfter text place
  | .noWordBefore => !wordBefore text place
  | .noWordAfter => !wordAfter text place

/-- What is known about the states at a place. -/
structure Reached where
  /-- For each state the last place that it was reached at, counted from one. -/
  seen : Array Nat
  /-- The sets that the next character can be in, and the states behind them. -/
  waiting : List (CharSet × Nat)
  /-- Whether a match ends at the place. -/
  accepted : Bool

/-- Visit states and all that can be reached from them without reading. A state that was seen at
the place is not visited again; the fuel bounds the visits. -/
def visit (states : Array State) (text : Array Char) (place : Nat) :
    Nat → List Nat → Reached → Reached
  | 0, _, reached => reached
  | _, [], reached => reached
  | fuel + 1, i :: others, ⟨seen, waiting, accepted⟩ =>
    if seen[i]? == some (place + 1) then
      visit states text place fuel others ⟨seen, waiting, accepted⟩
    else
      let seen := seen.setIfInBounds i (place + 1)
      match states[i]? with
      | none => visit states text place fuel others ⟨seen, waiting, accepted⟩
      | some .accept => ⟨seen, waiting, true⟩
      | some (.char set next) =>
        visit states text place fuel others ⟨seen, (set, next) :: waiting, accepted⟩
      | some (.assertion condition next) =>
        let others := if condition.holds text place then next :: others else others
        visit states text place fuel others ⟨seen, waiting, accepted⟩
      | some (.fork first second) =>
        visit states text place fuel (first :: second :: others) ⟨seen, waiting, accepted⟩

/-- Whether a match ends at a place or later, with the states that earlier matches have reached and
the text that follows the place. -/
def scan (a : Automaton) (text : Array Char) (seen : Array Nat) (place : Nat) (active : List Nat) :
    List Char → Bool
  | [] => (visitAll active seen).accepted
  | c :: rest =>
    let reached := visitAll active seen
    reached.accepted ||
      let next := reached.waiting.filterMap fun (set, next) =>
        if set.contains c then some next else none
      scan a text reached.seen (place + 1) next rest
where
  /-- Visit the states of earlier matches and the first state, where a match can begin. -/
  visitAll (active : List Nat) (seen : Array Nat) : Reached :=
    let fuel := 2 * a.states.size + active.length + 2
    visit a.states text place fuel (a.start :: active) ⟨seen, [], false⟩

/-- Whether some stretch of a text matches. -/
def Node.occursIn (node : Node) (text : String) : Bool :=
  let chars := text.toList
  let a := node.automaton
  scan a chars.toArray (Array.replicate a.states.size 0) 0 [] chars

end Pattern

end ValidatedStore
