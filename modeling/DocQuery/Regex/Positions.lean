import DocQuery.Regex.Expression

/-!
# Searching

Where an expression can end in a text, from any of several starts. Sets of places are numbers
whose bits are the places, counted from the start of the text, so that a step is taken from all
places at once and a search takes a bounded number of steps.
-/

namespace DocQuery.Regex

/-- A set of places in a text: bit `i` stands for the place after `i` characters. -/
abbrev Positions := Nat

namespace Positions

/-- The set of the bits that are true, the first one lowest. -/
def ofBits : List Bool → Positions
  | [] => 0
  | bit :: rest => 2 * ofBits rest + bit.toNat

/-- All places in a text of a number of characters. -/
def all (length : Nat) : Positions := (1 <<< (length + 1)) - 1

/-- The places before a character of a set. -/
def beforeChars (text : List Char) (chars : CharSet) : Positions :=
  ofBits (text.map chars.contains)

/-- For each place from a character on, whether it is as said. -/
def bitsFrom (assertion : Assertion) : Option Char → List Char → List Bool
  | before, [] => [assertion.holds before none]
  | before, c :: rest => assertion.holds before (some c) :: bitsFrom assertion (some c) rest

/-- The places that are as said. -/
def ofAssertion (text : List Char) (assertion : Assertion) : Positions :=
  ofBits (bitsFrom assertion none text)

/-- Takes a step a number of times. -/
def stepTimes (step : Positions → Positions) : Nat → Positions → Positions
  | 0, s => s
  | n + 1, s =>
    let next := step s
    if next = s then s else stepTimes step n next

/-- Takes a step up to a number of times, keeping the places on the way. -/
def stepUpTo (step : Positions → Positions) : Nat → Positions → Positions
  | 0, s => s
  | n + 1, s =>
    let next := s ||| step s
    if next = s then s else stepUpTo step n next

end Positions

/-- A step through a text. -/
structure Step where
  /-- The places that the step leads to from the places of a set. -/
  run : Positions → Positions

namespace Step

/-- The step past a character, given the places before such a character. -/
def past (places : Positions) : Step := ⟨fun starts => (starts &&& places) <<< 1⟩

/-- Takes one step and then another one. -/
def andThen (first second : Step) : Step := ⟨fun starts => second.run (first.run starts)⟩

/-- Takes one of two steps. -/
def orElse (first second : Step) : Step := ⟨fun starts => first.run starts ||| second.run starts⟩

/-- Takes a step several times in a text of a number of characters. More turns than one for each
place reach nothing new. -/
def times (length least : Nat) (most : Option Nat) (step : Step) : Step where
  run starts :=
    let reached := Positions.stepTimes step.run (min least (length + 1)) starts
    let more := match most with
      | some most => min (most - least) length
      | none => length
    Positions.stepUpTo step.run more reached

end Step

mutual

/-- The step from the places where an expression starts in a text to those where it can end. -/
def Expression.step (text : List Char) : Expression → Step
  | .empty => ⟨id⟩
  | .literal chars =>
    chars.foldr (fun c rest => (Step.past (.beforeChars text (.single c))).andThen rest) ⟨id⟩
  | .set chars _ => .past (.beforeChars text chars)
  | .place assertion =>
    let places := Positions.ofAssertion text assertion
    ⟨fun starts => starts &&& places⟩
  | .seq parts => Expression.stepAll text parts
  | .alt branches => Expression.stepAny text branches
  | .kept inner => inner.step text
  | .times least most _ inner => (inner.step text).times text.length least most

/-- The step of several expressions one after another. -/
def Expression.stepAll (text : List Char) : List Expression → Step
  | [] => ⟨id⟩
  | e :: rest => (e.step text).andThen (stepAll text rest)

/-- The step of one of several expressions. -/
def Expression.stepAny (text : List Char) : List Expression → Step
  | [] => ⟨fun _ => 0⟩
  | e :: rest => (e.step text).orElse (stepAny text rest)

end

/-- Whether an expression can be read somewhere in a text. -/
def Expression.occursIn (e : Expression) (text : String) : Bool :=
  let chars := text.toList
  (e.step chars).run (Positions.all chars.length) != 0

end DocQuery.Regex
