import DocQuery.Regex.Expression

/-!
# Combining expressions

Ways to build expressions that leave out what changes nothing: sets of one character, repetitions
of nothing, sequences within sequences, choices between characters, and choices between sequences
that start alike.
-/

namespace DocQuery.Regex.Expression

/-- Reads no text at all. -/
def never : Expression := .set .empty false

/-- Reads a character of a set. -/
def ofSet (chars : CharSet) (unicode : Bool) : Expression :=
  match chars.ranges with
  | [] => never
  | [r] => if r.first = r.last then .literal [Char.ofNat r.first] else .set chars unicode
  | _ => .set chars unicode

/-- Reads as an expression several times in a row, at most once if it reads nothing. -/
def repeated (least : Nat) (most : Option Nat) (reluctant : Bool) (inner : Expression) :
    Expression :=
  let (least, most) :=
    if inner.readsNothing then (min least 1, some ((most.getD 1).min 1)) else (least, most)
  if least = 0 ∧ most = some 0 then .empty
  else if least = 1 ∧ most = some 1 then inner
  else .times least most reluctant inner

/-- The parts of an expression that is a sequence. -/
def parts : Expression → List Expression
  | .empty => []
  | .seq parts => parts
  | e => [e]

/-- The branches of an expression that is a choice. -/
def branches : Expression → List Expression
  | .alt branches => branches
  | e => [e]

/-- Joins literals next to each other. -/
def joinLiterals : List Expression → List Expression
  | [] => []
  | .literal a :: rest =>
    match joinLiterals rest with
    | .literal b :: more => .literal (a ++ b) :: more
    | joined => .literal a :: joined
  | e :: rest => e :: joinLiterals rest

/-- Reads as several expressions one after another. -/
def sequence (es : List Expression) : Expression :=
  match joinLiterals (es.flatMap parts) with
  | [] => .empty
  | [e] => e
  | joined => .seq joined

/-- The character that an expression reads, if it is a literal of one. -/
def char? : Expression → Option Char
  | .literal [c] => some c
  | _ => none

/-- The set that an expression reads a character of. -/
def set? : Expression → Option CharSet
  | .set chars _ => some chars
  | _ => none

/-- Reads as one of several expressions, as a set if each is a character or each is a set. -/
def choice (es : List Expression) : Expression :=
  match es.flatMap branches with
  | [] => never
  | [e] => e
  | flat =>
    match flat.mapM char?, flat.mapM set? with
    | some chars, _ => ofSet (.ofCodes (chars.map Char.toNat)) true
    | none, some sets => ofSet (.ofRanges (sets.flatMap CharSet.ranges)) true
    | none, none => .alt flat

/-- The longest start that two lists of expressions have in common. -/
def commonStart : List Expression → List Expression → List Expression
  | a :: as, b :: bs => if same a b then a :: commonStart as bs else []
  | _, _ => []

/-- The longest start that several expressions have in common, if all of them are sequences. -/
def commonParts : List Expression → List Expression
  | [] => []
  | [.seq parts] => parts
  | .seq parts :: rest => commonStart parts (commonParts rest)
  | _ :: _ => []

/-- Reads as one of several expressions, what they have in common at their start first. -/
def oneOf (es : List Expression) : Expression :=
  match choice es with
  | .alt branches =>
    match commonParts branches with
    | [] => .alt branches
    | common =>
      let rests := branches.map fun branch => sequence (branch.parts.drop common.length)
      sequence (common ++ [choice rests])
  | e => e

end DocQuery.Regex.Expression
