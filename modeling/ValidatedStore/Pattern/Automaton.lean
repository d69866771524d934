import ValidatedStore.Pattern.Syntax

/-!
# The automaton of a pattern

A pattern is searched for by an automaton with one state for each character set and each condition,
forks for choices, and a state that accepts. States are put behind one another from the end to the
beginning, so that each node is given the state that follows it.
-/

namespace ValidatedStore

namespace Pattern

/-- What a state of an automaton does. -/
inductive State
  /-- Read one character of a set. -/
  | char (set : CharSet) (next : Nat)
  /-- Go on where a condition holds. -/
  | assertion (condition : Assertion) (next : Nat)
  /-- Go on in both states. -/
  | fork (first second : Nat)
  /-- A match ends here. -/
  | accept

/-- The states of an automaton and the number of the first one. -/
structure Automaton where
  /-- The states by their numbers. -/
  states : Array State
  /-- Where a match begins. -/
  start : Nat

namespace Automaton

/-- Add a state in front and begin there. -/
def push : Automaton → State → Automaton
  | ⟨states, _⟩, state =>
    let number := states.size
    ⟨states.push state, number⟩

/-- Begin either at the start or at another state. -/
def forkTo (other : Nat) (a : Automaton) : Automaton := a.push (.fork a.start other)

/-- Put a stretch in front that leads to a fork, which leads back to the stretch or on; returns the
number of the fork beside the automaton. -/
def loop (stretch : Automaton → Automaton) : Automaton → Nat × Automaton
  | ⟨states, exit⟩ =>
    let fork := states.size
    match stretch ⟨states.push (.fork exit exit), fork⟩ with
    | ⟨states, start⟩ => (fork, ⟨states.setIfInBounds fork (.fork start exit), start⟩)

/-- Put a stretch in front once or more. -/
def repeatOnceOrMore (stretch : Automaton → Automaton) (a : Automaton) : Automaton :=
  (a.loop stretch).2

/-- Put a stretch in front any number of times, beginning with the fork that leads to it. -/
def repeatFreely (stretch : Automaton → Automaton) (a : Automaton) : Automaton :=
  match a.loop stretch with
  | (fork, ⟨states, _⟩) => ⟨states, fork⟩

end Automaton

/-- Put the stretches of a node in front of an automaton. -/
def Node.before : Node → Automaton → Automaton
  | .empty, a => a
  | .char set, a => a.push (.char set a.start)
  | .assertion condition, a => a.push (.assertion condition a.start)
  | .concat first second, a => first.before (second.before a)
  | .either first second, ⟨states, exit⟩ =>
    match first.before ⟨states, exit⟩ with
    | ⟨states, start⟩ => (second.before ⟨states, exit⟩).forkTo start
  | .group body, a => body.before a
  | .repeated body 0 none, a => a.repeatFreely body.before
  | .repeated body (least + 1) none, a =>
    Nat.repeat body.before least (a.repeatOnceOrMore body.before)
  | .repeated body least (some most), ⟨states, exit⟩ =>
    let optional (a : Automaton) : Automaton := (body.before a).forkTo exit
    Nat.repeat body.before least (Nat.repeat optional (most - least) ⟨states, exit⟩)

/-- The automaton that accepts after a stretch of a node. -/
def Node.automaton (node : Node) : Automaton := node.before ⟨#[.accept], 0⟩

end Pattern

end ValidatedStore
