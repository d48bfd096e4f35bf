import DocQuery.Json.Failure

/-!
# Reading position

A cursor is the rest of a text, as bytes, with the position of its first byte.
-/

namespace DocQuery.Json

/-- The rest of a text and where it starts. -/
structure Cursor where
  rest : List UInt8
  position : Position

namespace Cursor

/-- The cursor at the start of a text. -/
def start (bytes : List UInt8) : Cursor := ⟨bytes, ⟨1, 0⟩⟩

/-- The next byte. -/
def peek (c : Cursor) : Option UInt8 := c.rest.head?

/-- The position after a byte. -/
def stepOver (p : Position) (byte : UInt8) : Position :=
  if byte = 10 then ⟨p.line + 1, 0⟩ else ⟨p.line, p.column + 1⟩

/-- The cursor after the next byte; the end of the text stays where it is. -/
def advance (c : Cursor) : Cursor :=
  match c.rest with
  | [] => c
  | byte :: rest => ⟨rest, stepOver c.position byte⟩

/-- The cursor after several bytes. -/
def advanceBy : Nat → Cursor → Cursor
  | 0, c => c
  | n + 1, c => advanceBy n c.advance

/-- Blanks between the tokens of a text. -/
def isBlank (byte : UInt8) : Bool := byte = 32 || byte = 10 || byte = 9 || byte = 13

/-- The rest of a text after its blanks, and where it starts. -/
def skipBlanksFrom : List UInt8 → Position → Cursor
  | [], p => ⟨[], p⟩
  | byte :: rest, p =>
    if isBlank byte then skipBlanksFrom rest (stepOver p byte) else ⟨byte :: rest, p⟩

/-- The cursor at the next byte that is not a blank. -/
def skipBlanks (c : Cursor) : Cursor := skipBlanksFrom c.rest c.position

/-- Refuses a text for a reason found before the cursor. -/
def fail {α : Type} (c : Cursor) (cause : SyntaxCause) : Decoding α :=
  .error ⟨.malformed cause, c.position⟩

/-- Refuses a text for its next byte. -/
def failNext {α : Type} (c : Cursor) (cause : SyntaxCause) : Decoding α :=
  c.advance.fail cause

end Cursor

end DocQuery.Json
