import DocQuery.Regex.Expression
import DocQuery.Regex.LiteralTrie
import DocQuery.Regex.SetGrowth

/-!
# The size of automata

How much memory the automata of an expression take, which read the bytes of a text and have states
of their own for every turn of a repetition. One reads from the start of a match to its end and
keeps what is to be kept; the other one reads back from the end.
-/

namespace DocQuery.Regex

/-- The direction in which an automaton reads. -/
inductive Direction where
  | forward
  | backward
  deriving DecidableEq, Repr

/-- What comes first in a direction comes first. -/
def Direction.order {α : Type} : Direction → List α → List α
  | .forward, items => items
  | .backward, items => items.reverse

namespace Expression

mutual

/-- Whether everything that an expression reads starts at the start of the text, or, in the other
direction, ends at its end. -/
def isAnchored (direction : Direction) : Expression → Bool
  | .place assertion =>
    match direction with
    | .forward => assertion == .textStart
    | .backward => assertion == .textEnd
  | .seq parts =>
    match direction with
    | .forward => firstIsAnchored parts
    | .backward => lastIsAnchored parts
  | .alt branches => allAreAnchored direction branches
  | .kept inner => inner.isAnchored direction
  | .times least _ _ inner => 0 < least && inner.isAnchored direction
  | _ => false

/-- Whether several expressions in a row start at the start of the text. -/
def firstIsAnchored : List Expression → Bool
  | [] => false
  | e :: rest => e.isAnchored .forward || e.readsNothing && firstIsAnchored rest

/-- Whether several expressions in a row end at the end of the text. -/
def lastIsAnchored : List Expression → Bool
  | [] => false
  | e :: rest => lastIsAnchored rest || allReadNothing rest && e.isAnchored .backward

/-- Whether each of several expressions is anchored. -/
def allAreAnchored (direction : Direction) : List Expression → Bool
  | [] => true
  | e :: rest => e.isAnchored direction && allAreAnchored direction rest

end

/-- A state that goes on to an expression or past it. -/
def decision : Growth := .add (.fork 2)

/-- A state that only goes on to another one. -/
def joint : Growth := .add (.plain 1)

/-- The states of a set of characters. ASCII characters are bytes, which one state reads. -/
def setGrowth (direction : Direction) (chars : CharSet) : Growth :=
  if chars.ranges.all fun r => r.last ≤ 0x7F then
    .add ((Extent.plain 1).add (.switch chars.ranges.length))
  else
    let sequences := Utf8.sequencesOfSet chars
    match direction with
    | .forward => ⟨fun e => (SetGrowth.forward sequences e).bounded?⟩
    | .backward => ⟨fun e => (SetGrowth.backward sequences e).bounded?⟩

/-- The states of a choice, given those of its branches. -/
def choiceGrowth : List Growth → Growth
  | first :: second :: rest =>
    let join : Growth := .add ((Extent.fork (rest.length + 2)).add (.plain 1))
    .all (first :: second :: join :: rest)
  | branches => .all branches

/-- The states of a repetition, given those of a turn, which may read nothing. -/
def timesGrowth (least : Nat) (most : Option Nat) (mayReadNothing : Bool) (turn : Growth) :
    Growth :=
  match most with
  | some most =>
    let optional := decision.andThen turn
    if least = 0 ∧ most = 1 then optional.andThen joint
    else if least = most then turn.times least
    else
      let needed := if least = 0 then joint else turn.times least
      .all [needed, joint, optional.times (most - least)]
  | none =>
    if 0 < least then (turn.times least).andThen decision
    else if mayReadNothing then .all [turn, decision, decision, joint]
    else decision.andThen turn

mutual

/-- The states that read an expression in a direction. -/
def growth (direction : Direction) : Expression → Growth
  | .empty => joint
  | .literal chars => .add (.plain (chars.map Char.utf8Size).sum)
  | .set chars _ => setGrowth direction chars
  | .place _ => joint
  | .seq parts => .all (direction.order (growthOfEach direction parts))
  | .alt branches =>
    match branches.mapM literal? with
    | some literals => .add (LiteralTrie.extent (literals.map direction.order))
    | none => choiceGrowth (growthOfEach direction branches)
  | .kept inner =>
    match direction with
    | .forward => .all [joint, inner.growth direction, joint]
    | .backward => inner.growth direction
  | .times least most _ inner =>
    let mayReadNothing := !inner.leastLength?.any (0 < ·)
    timesGrowth least most mayReadNothing (inner.growth direction)

/-- The states that read each of several expressions. -/
def growthOfEach (direction : Direction) : List Expression → List Growth
  | [] => []
  | e :: rest => e.growth direction :: growthOfEach direction rest

end

/-- The extent of the automaton that finds an expression, unless it takes too much memory. A match
that is not anchored may have any bytes around it. -/
def automaton? (direction : Direction) (e : Expression) : Option Extent :=
  let around : Growth :=
    if e.isAnchored direction then joint
    else .add (((Extent.fork 2).add (.plain 1)).add (.switch 1))
  let found := match direction with
    | .forward => (Expression.kept e).growth direction
    | .backward => e.growth direction
  (Growth.all [around, found, joint]).run .zero

/-- Whether the automata of an expression take no more memory than they may. -/
def fits (e : Expression) : Bool :=
  (e.automaton? .forward).isSome && (e.automaton? .backward).isSome

end Expression

end DocQuery.Regex
