import DocQuery.Regex.Growth
import DocQuery.Unicode.Utf8Ranges
import Std.Data.HashMap

/-!
# Reading sets byte by byte

The states that an automaton needs to read a character of a set in UTF-8. Read from the first byte
on, a state with the same transitions as one before is not added again; read from the last byte
on, neither is a state with the same transition. States that have been added are found by a table
with a fixed number of slots, where a slot keeps the state that came last.
-/

namespace DocQuery.Regex

open Utf8 (ByteRange)

/-- A transition by a range of bytes to a state with a number. -/
structure Transition where
  range : ByteRange
  target : Nat
  deriving DecidableEq, Repr

/-- States found by what they are, with their numbers, and the extent with them. -/
structure StateTable (α : Type) where
  extent : Extent
  latest : Std.HashMap Nat (α × Nat)

namespace StateTable

variable {α : Type} [DecidableEq α]

/-- The table without states. -/
def start (extent : Extent) : StateTable α := ⟨extent, ∅⟩

/-- The number of a state, which is added unless its slot holds it. -/
def find (table : StateTable α) (slot : Nat) (state : α) (added : Extent) : Nat × StateTable α :=
  let add : Nat × StateTable α :=
    let number := table.extent.states
    (number, ⟨table.extent.add added, table.latest.insert slot (state, number)⟩)
  match table.latest[slot]? with
  | some (known, number) => if known = state then (number, table) else add
  | none => add

end StateTable

namespace Slot

/-- The hash of nothing. -/
def seed : UInt64 := 14695981039346656037

/-- The hash after one more number. -/
def mix (hash : UInt64) (n : Nat) : UInt64 := (hash ^^^ n.toUInt64) * 1099511628211

/-- The slot of numbers in a table with a number of slots. -/
def ofNumbers (slots : Nat) (numbers : List Nat) : Nat := (numbers.foldl mix seed).toNat % slots

end Slot

namespace SetGrowth

/-- A state that is not complete: its transitions so far, the last one first, and the range of
bytes of the next one. -/
structure Pending where
  transitions : List Transition
  range : ByteRange

/-- The number of a state with transitions. -/
def findNode (transitions : List Transition) (table : StateTable (List Transition)) :
    Nat × StateTable (List Transition) :=
  let numbers := transitions.flatMap fun t => [t.range.1, t.range.2, t.target]
  table.find (Slot.ofNumbers 10000 numbers) transitions (.switch transitions.length)

/-- Completes states of which each goes on to the next one, the last one to a target. Gives the
number of the first one. -/
def complete (target : Nat) :
    List Pending → StateTable (List Transition) → Nat × StateTable (List Transition)
  | [], table => (target, table)
  | state :: deeper, table =>
    let (next, table) := complete target deeper table
    findNode (⟨state.range, next⟩ :: state.transitions).reverse table

/-- Adds a sequence of ranges to states that are not complete. Those after its common start with
the sequence before are completed. -/
def addSequence (target : Nat) : List Pending → List ByteRange →
    StateTable (List Transition) → List Pending × StateTable (List Transition)
  | [], sequence, table => (sequence.map (⟨[], ·⟩), table)
  | states, [], table => (states, table)
  | state :: deeper, range :: rest, table =>
    if state.range = range then
      let (deeper, table) := addSequence target deeper rest table
      (state :: deeper, table)
    else
      let (next, table) := complete target deeper table
      (⟨⟨state.range, next⟩ :: state.transitions, range⟩ :: rest.map (⟨[], ·⟩), table)

/-- The extent with states that read sequences from their first byte on. -/
def forward (sequences : List (List ByteRange)) (e : Extent) : Extent :=
  let target := e.states
  let (states, table) := sequences.foldl
    (fun (states, table) sequence => addSequence target states sequence table)
    ([], .start (e.add (.plain 1)))
  (complete target states table).2.extent

/-- The number of the state that reads a sequence from its last byte on. -/
def addBackward (target : Nat) (sequence : List ByteRange) (table : StateTable Transition) :
    Nat × StateTable Transition :=
  sequence.foldl
    (fun (target, table) range =>
      let slot := Slot.ofNumbers 1000 [target, range.1, range.2]
      table.find slot ⟨range, target⟩ (.plain 1))
    (target, table)

/-- The extent with states that read sequences from their last byte on. -/
def backward (sequences : List (List ByteRange)) (e : Extent) : Extent :=
  let target := e.states + 1
  let start := (e.add (.fork sequences.length)).add (.plain 1)
  (sequences.foldl (fun table sequence => (addBackward target sequence table).2)
    (.start start)).extent

end SetGrowth

end DocQuery.Regex
