import DocQuery.Regex.Failure
import DocQuery.Unicode.Classes

/-!
# Reading a pattern

A scanner is the rest of a pattern, the place where it starts, and whether blanks and comments are
skipped there.
-/

namespace DocQuery.Regex

/-- The rest of a pattern. -/
structure Scanner where
  rest : List Char
  place : Place
  /-- Whether blanks and comments between the parts of the pattern are skipped. -/
  verbose : Bool

namespace Scanner

/-- A result together with the scanner after the part it was read from. -/
abbrev Scan (α : Type) := Except Failure α

/-- The scanner at the start of a pattern. -/
def start (pattern : String) : Scanner := ⟨pattern.toList, .start, false⟩

/-- Whether the pattern ends here. -/
def atEnd (s : Scanner) : Bool := s.rest.isEmpty

/-- The next character. -/
def char? (s : Scanner) : Option Char := s.rest.head?

/-- The character after the next one. -/
def peek (s : Scanner) : Option Char := s.rest.tail.head?

/-- Whether the next character is the given one. -/
def sees (s : Scanner) (c : Char) : Bool := s.rest.head? == some c

/-- The empty span here. -/
def here (s : Scanner) : Span := .empty s.place

/-- The span of the next character. -/
def charSpan (s : Scanner) : Span :=
  match s.rest with
  | [] => s.here
  | c :: _ => ⟨s.place, s.place.after c⟩

/-- The span from an earlier place to here. -/
def since (s : Scanner) (first : Place) : Span := ⟨first, s.place⟩

/-- The scanner after the next character. -/
def bump (s : Scanner) : Scanner :=
  match s.rest with
  | [] => s
  | c :: rest => { s with rest := rest, place := s.place.after c }

/-- The scanner after several characters. -/
def bumpBy : Nat → Scanner → Scanner
  | 0, s => s
  | n + 1, s => bumpBy n s.bump

/-- The scanner after the given text, if it is next. -/
def accept? (s : Scanner) (text : String) : Option Scanner :=
  if text.toList.isPrefixOf s.rest then some (s.bumpBy text.length) else none

/-- The rest of a pattern after blanks and comments; `inComment` until the end of the line. -/
def skipFrom : Bool → List Char → Place → List Char × Place
  | _, [], p => ([], p)
  | true, c :: rest, p => skipFrom (c != '\n') rest (p.after c)
  | false, c :: rest, p =>
    if Unicode.isBlank c then skipFrom false rest (p.after c)
    else if c = '#' then skipFrom true rest (p.after c)
    else (c :: rest, p)

/-- Skips blanks and comments where they are skipped. -/
def skip (s : Scanner) : Scanner :=
  if s.verbose then
    let (rest, place) := skipFrom false s.rest s.place
    { s with rest := rest, place := place }
  else s

/-- The scanner after the next character and the blanks and comments after it. -/
def bumpSkip (s : Scanner) : Scanner := s.bump.skip

/-- The scanner after blanks, skipped or not. -/
def dropBlanks (s : Scanner) : Scanner :=
  let (rest, place) := dropFrom s.rest s.place
  { s with rest := rest, place := place }
where
  /-- The rest of a pattern after blanks. -/
  dropFrom : List Char → Place → List Char × Place
    | [], p => ([], p)
    | c :: rest, p => if Unicode.isBlank c then dropFrom rest (p.after c) else (c :: rest, p)

/-- The first character that is neither a blank nor the sign of a comment. -/
def pastBlanks? : Bool → List Char → Option Char
  | _, [] => none
  | inComment, c :: rest =>
    if Unicode.isBlank c then pastBlanks? inComment rest
    else if !inComment && c == '#' then pastBlanks? true rest
    else some c

/-- The character after the next one, past blanks where they are skipped. Of a comment only the
sign is passed over. -/
def peekSkip (s : Scanner) : Option Char :=
  if s.verbose then
    match pastBlanks? false s.rest.tail with
    | some c => some c
    | none => s.peek
  else s.peek

end Scanner

end DocQuery.Regex
