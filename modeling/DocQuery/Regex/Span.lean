/-!
# Places in a pattern

A place is a character of a pattern by its line and column, both counted from one; a span lies
between two places. An error shows the pattern with carets under its spans.
-/

namespace DocQuery.Regex

/-- A place in a pattern. -/
structure Place where
  /-- Number of characters before the place. -/
  offset : Nat
  line : Nat
  column : Nat
  deriving DecidableEq, Repr

/-- The first place of a pattern. -/
def Place.start : Place := ⟨0, 1, 1⟩

/-- The place after a character. -/
def Place.after (p : Place) (c : Char) : Place :=
  if c = '\n' then ⟨p.offset + 1, p.line + 1, 1⟩ else ⟨p.offset + 1, p.line, p.column + 1⟩

/-- The part of a pattern from one place up to another. -/
structure Span where
  first : Place
  last : Place
  deriving DecidableEq, Repr

namespace Span

/-- The empty span at a place. -/
def empty (p : Place) : Span := ⟨p, p⟩

/-- Whether a span begins and ends on one line. -/
def isOneLine (s : Span) : Bool := s.first.line == s.last.line

/-- Whether a span comes before another one or is the same. -/
def precedes (s t : Span) : Bool :=
  s.first.offset < t.first.offset ||
    s.first.offset == t.first.offset && s.last.offset ≤ t.last.offset

end Span

/-- The lines of a pattern, a line feed or a carriage return with a line feed ending a line. -/
def lines : List Char → List (List Char)
  | [] => []
  | '\n' :: rest => [] :: lines rest
  | c :: rest =>
    if c = '\r' ∧ rest.head? = some '\n' then lines rest
    else match rest, lines rest with
      | [], _ => [[c]]
      | _ :: _, line :: more => (c :: line) :: more
      | _ :: _, [] => [[c]]

/-- Carets under spans of one line, given in order. -/
def caretsFrom : Nat → List Span → List Char
  | _, [] => []
  | column, s :: rest =>
    let gap := s.first.column - 1 - column
    let width := max 1 (s.last.column - s.first.column)
    List.replicate gap ' ' ++ List.replicate width '^' ++ caretsFrom (column + gap + width) rest

/-- A pattern with carets under its spans, every line numbered if there are several. -/
def notate (pattern : List Char) (spans : List Span) : List Char :=
  let all := lines pattern
  let count := all.length + if pattern.getLast? = some '\n' then 1 else 0
  let width := if count ≤ 1 then 0 else (toString count).length
  let number (n : Nat) : List Char :=
    if width = 0 then "    ".toList
    else
      let digits := (toString n).toList
      List.replicate (width - digits.length) ' ' ++ digits ++ [':', ' ']
  (all.zipIdx 1).flatMap fun (line, n) =>
    let here := spans.filter fun s => s.isOneLine && s.first.line == n
    let carets :=
      if here.isEmpty then []
      else List.replicate (if width = 0 then 4 else width + 2) ' ' ++ caretsFrom 0 here ++ ['\n']
    number n ++ line ++ '\n' :: carets

/-- Where a span of several lines lies, in words. -/
def describeLines (s : Span) : String :=
  "on line " ++ toString s.first.line ++ " (column " ++ toString s.first.column ++
    ") through line " ++ toString s.last.line ++ " (column " ++ toString (s.last.column - 1) ++ ")"

/-- The message of a mistake at a span of a pattern, with a second span it refers to. -/
def report (pattern : String) (span : Span) (related : Option Span) (mistake : String) : String :=
  let spans := (span :: related.toList).mergeSort Span.precedes
  let notated := String.ofList (notate pattern.toList spans)
  if pattern.toList.contains '\n' then
    let divider := String.ofList (List.replicate 79 '~') ++ "\n"
    let long := spans.filter fun s => !s.isOneLine
    let notes := if long.isEmpty then "" else "\n".intercalate (long.map describeLines) ++ "\n"
    "regex parse error:\n" ++ divider ++ notated ++ divider ++ notes ++ "error: " ++ mistake
  else "regex parse error:\n" ++ notated ++ "error: " ++ mistake

end DocQuery.Regex
