import DocQuery.Selector.Parse

/-!
# Selectors in a text

A selector that is decoded as part of a text. What is wrong with the selector itself has no
position; if its message ends in one, that is taken for the position, and line zero for none.
-/

namespace DocQuery

namespace Json.Position

/-- The number written by decimal digits, if it fits 64 bits. -/
def number? (digits : List Char) : Option Nat :=
  let value := digits.foldl (fun n c => n * 10 + (c.toNat - '0'.toNat)) 0
  if !digits.isEmpty && value < UInt64.size then some value else none

/-- Takes a number and the words before it off the end of a message, whose last character comes
first. -/
def takeOff? (words : String) (reversed : List Char) : Option (Nat × List Char) := do
  let digits := reversed.takeWhile Char.isDigit
  let number ← number? digits.reverse
  let rest := reversed.drop digits.length
  let ending := words.toList.reverse
  if ending.isPrefixOf rest then some (number, rest.drop ending.length) else none

/-- Splits a message that ends in a position. -/
def split? (message : String) : Option (String × Position) := do
  let (column, rest) ← takeOff? " column " message.toList.reverse
  let (line, rest) ← takeOff? " at line " rest
  some (String.ofList rest.reverse, ⟨line, column⟩)

end Json.Position

namespace Selector

/-- Why a text is not a selector. -/
inductive DecodeError where
  /-- The text is not JSON. -/
  | undecodable (error : Json.DecodeError)
  /-- The value is not a selector. -/
  | refused (error : ParseError)

/-- The message of an error. -/
def DecodeError.message : DecodeError → String
  | .undecodable error => error.message
  | .refused error =>
    match Json.Position.split? error.message with
    | some (message, position) => if position.line = 0 then message else position.locate message
    | none => error.message

/-- The selector that a text stands for. The selector is read before what follows it. -/
def decode (text : String) : Except DecodeError Selector := do
  let (value, c) ← (Json.decodeFirst text.toUTF8.toList).mapError .undecodable
  let selector ← (ofJson value).mapError .refused
  (Json.Cursor.finish (selector, c)).mapError .undecodable

end Selector

end DocQuery
