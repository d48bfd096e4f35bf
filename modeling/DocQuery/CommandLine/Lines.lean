import DocQuery.CommandLine.Outcome
import DocQuery.Json.Decode
import DocQuery.Unicode.Classes

/-!
# Lines of JSON

A file of JSON values has one of them on each line; lines that hold blanks only are skipped.
-/

namespace DocQuery.CommandLine

/-- A line that ends in a line feed, without a carriage return before that. -/
def dropReturn (line : List Char) : List Char :=
  if line.getLast? = some '\r' then line.dropLast else line

/-- The lines of a text, with the line read so far, its last character first. A text that ends in
a line feed has no line after it. -/
def splitLines : List Char → List Char → List (List Char)
  | line, [] => if line.isEmpty then [] else [line.reverse]
  | line, c :: rest =>
    if c = '\n' then dropReturn line.reverse :: splitLines [] rest else splitLines (c :: line) rest

/-- The lines of a text. -/
def lines (text : String) : List String := (splitLines [] text.toList).map String.ofList

/-- The lines of a text that hold more than blanks. -/
def filledLines (text : String) : List String :=
  (lines text).filter fun line => !Unicode.isBlankText line

/-- Decodes lines, the first of which has a number. -/
def decodeFrom : Nat → List String → Except Failure (List (String × Json))
  | _, [] => .ok []
  | number, line :: rest =>
    match Json.decodeText line with
    | .ok value => return (line, value) :: (← decodeFrom (number + 1) rest)
    | .error error => .error ⟨"Invalid JSON on line " ++ toString number, some error.message⟩

/-- The lines of a file with the values on them. -/
def decodeLines (bytes : List UInt8) : Except Failure (List (String × Json)) :=
  match Utf8.decode? bytes with
  | some text => decodeFrom 1 (filledLines text)
  | none => .error ⟨"stream did not contain valid UTF-8", none⟩

end DocQuery.CommandLine
