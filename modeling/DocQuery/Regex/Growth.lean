/-!
# Growing automata

How much memory an automaton takes while states are added to it, up to a limit. What a state costs
can depend on the states before it, so growth is a function of the automaton so far.
-/

namespace DocQuery.Regex

/-- The number of bytes that an automaton may take. -/
def sizeLimit : Nat := 10485760

/-- How large an automaton is. -/
structure Extent where
  states : Nat
  /-- The number of bytes that transitions take outside of their states. -/
  transitions : Nat
  deriving DecidableEq, Repr

namespace Extent

/-- The number of bytes that a state takes by itself. -/
def stateSize : Nat := 32

/-- The number of bytes that a transition by a range of bytes takes. -/
def rangeSize : Nat := 8

/-- The number of bytes that a transition to one of several states takes. -/
def branchSize : Nat := 4

/-- The extent of an automaton without states. -/
def zero : Extent := ⟨0, 0⟩

/-- The number of bytes that an automaton takes. -/
def size (e : Extent) : Nat := stateSize * e.states + e.transitions

/-- The extents of two automata together. -/
def add (e f : Extent) : Extent := ⟨e.states + f.states, e.transitions + f.transitions⟩

/-- The extent of a state with transitions by ranges of bytes. -/
def switch (ranges : Nat) : Extent := ⟨1, rangeSize * ranges⟩

/-- The extent of a state that goes on as one of several others. -/
def fork (branches : Nat) : Extent := ⟨1, branchSize * branches⟩

/-- The extent of states with one transition each, which takes nothing besides. -/
def plain (states : Nat) : Extent := ⟨states, 0⟩

/-- The extent of an automaton, unless it takes more bytes than it may. -/
def bounded? (e : Extent) : Option Extent := if sizeLimit < e.size then none else some e

end Extent

/-- A way to add states to an automaton. -/
structure Growth where
  /-- The extent after the states are added, unless it passes the limit. -/
  run : Extent → Option Extent

namespace Growth

/-- Adds no state. -/
def nothing : Growth := ⟨some⟩

/-- Adds states of a given extent. -/
def add (added : Extent) : Growth := ⟨fun e => (e.add added).bounded?⟩

/-- Adds states one way and then another way. -/
def andThen (first second : Growth) : Growth := ⟨fun e => (first.run e).bind second.run⟩

/-- Adds states in several ways, one after another. -/
def all (growths : List Growth) : Growth := growths.foldr andThen nothing

/-- Adds states the same way a number of times. -/
def times (count : Nat) (growth : Growth) : Growth := ⟨repeatRun count⟩
where
  /-- The extent after a number of times. -/
  repeatRun : Nat → Extent → Option Extent
    | 0, e => some e
    | n + 1, e =>
      match growth.run e with
      | some e => repeatRun n e
      | none => none

end Growth

end DocQuery.Regex
