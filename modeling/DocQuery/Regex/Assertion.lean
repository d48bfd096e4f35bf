import DocQuery.Regex.CharClass

/-!
# Assertions

What an anchor says about a place in a text. It depends on the characters before and after the
place, of which there are none at the ends of the text.
-/

namespace DocQuery.Regex

/-- The tests of whether there are characters of words before and after a place. -/
inductive WordTest where
  /-- On one side only. -/
  | boundary
  /-- On both sides or on none. -/
  | noBoundary
  /-- After the place only. -/
  | start
  /-- Before the place only. -/
  | finish
  /-- Not before the place. -/
  | startHalf
  /-- Not after the place. -/
  | finishHalf
  deriving DecidableEq, Repr

/-- What a test says, given whether a character of a word is before and after the place. -/
def WordTest.holds : WordTest → Bool → Bool → Bool
  | .boundary, before, after => before != after
  | .noBoundary, before, after => before == after
  | .start, before, after => !before && after
  | .finish, before, after => before && !after
  | .startHalf, before, _ => !before
  | .finishHalf, _, after => !after

/-- What is said about a place in a text. -/
inductive Assertion where
  | textStart
  | textEnd
  /-- The start of a line; lines may end in a carriage return and a line feed. -/
  | lineStart (crlf : Bool)
  /-- The end of a line, likewise. -/
  | lineEnd (crlf : Bool)
  | word (unicode : Bool) (test : WordTest)
  deriving DecidableEq, Repr

namespace Assertion

/-- Whether a place is as said. If a carriage return and a line feed may end a line together, there
is no line between them. -/
def holds : Assertion → Option Char → Option Char → Bool
  | .textStart, before, _ => before.isNone
  | .textEnd, _, after => after.isNone
  | .lineStart _, none, _ => true
  | .lineStart crlf, some c, after => c == '\n' || crlf && c == '\r' && after != some '\n'
  | .lineEnd _, _, none => true
  | .lineEnd crlf, before, some c =>
    if crlf then c == '\r' || c == '\n' && before != some '\r' else c == '\n'
  | .word unicode test, before, after =>
    let words := LetterClass.set unicode .word
    test.holds (before.any words.contains) (after.any words.contains)

/-- What an anchor says. -/
def ofAnchor (s : Settings) : Anchor → Assertion
  | .lineStart => if s.multiLine then .lineStart s.crlf else .textStart
  | .lineEnd => if s.multiLine then .lineEnd s.crlf else .textEnd
  | .textStart => .textStart
  | .textEnd => .textEnd
  | .boundary => .word s.unicode .boundary
  | .notBoundary => .word s.unicode .noBoundary
  | .boundaryStart => .word s.unicode .start
  | .boundaryEnd => .word s.unicode .finish
  | .boundaryStartHalf => .word s.unicode .startHalf
  | .boundaryEndHalf => .word s.unicode .finishHalf

end Assertion

end DocQuery.Regex
