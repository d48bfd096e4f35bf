import DocQuery.Regex.EscapeParser

/-!
# Classes in brackets

Reads a class in brackets: characters, ranges, classes by letter or name, nested brackets, and
operations on the classes to both sides, which group from the left.
-/

namespace DocQuery.Regex

/-- The items of a class read so far, the last one first, and the span they cover. -/
structure ClassItems where
  span : Span
  items : List ClassTree

namespace ClassItems

/-- No items, at a place. -/
def none (p : Place) : ClassItems := ⟨.empty p, []⟩

/-- Adds an item. -/
def push (c : ClassItems) (item : ClassTree) : ClassItems :=
  let first := if c.items.isEmpty then item.span.first else c.span.first
  ⟨⟨first, item.span.last⟩, item :: c.items⟩

/-- The class of the items. -/
def tree (c : ClassItems) : ClassTree :=
  match c.items with
  | [] => .empty c.span
  | [item] => item
  | items => .union c.span items.reverse

end ClassItems

/-- What is open around the items being read. -/
inductive ClassFrame where
  /-- Brackets, with the items before them and the span of their opening. -/
  | brackets (before : ClassItems) (opening : Span) (negated : Bool)
  /-- An operation, with the class to its left. -/
  | operation (op : SetOperation) (left : ClassTree)

/-- The mistake of brackets that are never closed. -/
def unclosedClass {α : Type} (s : Scanner) : List ClassFrame → Except Failure α
  | [] => fail s.here .classUnclosed
  | .brackets _ opening _ :: _ => fail opening .classUnclosed
  | .operation .. :: rest => unclosedClass s rest

/-- Applies the operation that is open, if there is one, to the class to its right. -/
def closeOperation (right : ClassTree) : List ClassFrame → ClassTree × List ClassFrame
  | .operation op left :: rest =>
    (.operation ⟨left.span.first, right.span.last⟩ op left right, rest)
  | frames => (right, frames)

/-- The ASCII class with a name. -/
def asciiClass? : String → Option AsciiClass
  | "alnum" => some .alnum
  | "alpha" => some .alpha
  | "ascii" => some .ascii
  | "blank" => some .blank
  | "cntrl" => some .cntrl
  | "digit" => some .digit
  | "graph" => some .graph
  | "lower" => some .lower
  | "print" => some .print
  | "punct" => some .punct
  | "space" => some .space
  | "upper" => some .upper
  | "word" => some .word
  | "xdigit" => some .xdigit
  | _ => none

namespace Scanner

/-- Reads a named ASCII class at its opening bracket, if there is one. -/
def readAsciiClass? (s : Scanner) : Option (ClassTree × Scanner) := do
  let first := s.place
  let s ← s.accept? "[:"
  let negated := s.sees '^'
  let s := if negated then s.bump else s
  let name := s.rest.takeWhile (· != ':')
  let s ← (s.bumpBy name.length).accept? ":]"
  let kind ← asciiClass? (String.ofList name)
  some (.ascii (s.since first) kind negated, s)

/-- Reads dashes at the start of a class as themselves, at most `fuel` of them. -/
def readDashes (first : Place) : Nat → ClassItems → Scanner → Scan (ClassItems × Scanner)
  | 0, items, s => .ok (items, s)
  | fuel + 1, items, s =>
    if s.sees '-' then
      let items := items.push (.literal ⟨s.charSpan, '-', false⟩)
      let s := s.bumpSkip
      if s.atEnd then fail (.empty first) .classUnclosed else readDashes first fuel items s
    else .ok (items, s)

/-- Reads the opening of a class: the bracket, the sign of negation, and the dashes or the closing
bracket that stand for themselves. -/
def openClass (before : ClassItems) (s : Scanner) : Scan (ClassFrame × ClassItems × Scanner) := do
  let first := s.place
  let s := s.bumpSkip
  if s.atEnd then fail (s.since first) .classUnclosed
  else
    let negated := s.sees '^'
    let s := if negated then s.bumpSkip else s
    if s.atEnd then fail (s.since first) .classUnclosed
    else
      let (items, s) ← readDashes first (s.rest.length + 1) (.none s.place) s
      if items.items.isEmpty && s.sees ']' then
        let items := items.push (.literal ⟨s.charSpan, ']', false⟩)
        let s := s.bumpSkip
        if s.atEnd then fail (s.since first) .classUnclosed
        else .ok (.brackets before (s.since first) negated, items, s)
      else .ok (.brackets before (s.since first) negated, items, s)

/-- Reads a character or an escape inside a class. -/
def readClassItem (s : Scanner) : Scan (Primitive × Scanner) :=
  match s.char? with
  | none => .ok (.literal ⟨s.here, '\\', false⟩, s)
  | some c =>
    if c = '\\' then s.readEscape else .ok (.literal ⟨s.charSpan, c, false⟩, s.bump)

/-- The item of a class that a primitive is. -/
def classItem : Primitive → Scan ClassTree
  | .literal lit => .ok (.literal lit)
  | .charClass tree => .ok tree
  | other => fail other.span .classEscapeInvalid

/-- The end of a range that a primitive is. -/
def rangeEnd : Primitive → Scan Literal
  | .literal lit => .ok lit
  | other => fail other.span .classRangeLiteral

/-- Reads an item of a class, or a range. -/
def readRange (frames : List ClassFrame) (s : Scanner) : Scan (ClassTree × Scanner) := do
  let (first, s) ← s.readClassItem
  let s := s.skip
  if s.atEnd then unclosedClass s frames
  else if !s.sees '-' || s.peekSkip == some ']' || s.peekSkip == some '-' then
    return (← classItem first, s)
  else
    let s := s.bumpSkip
    if s.atEnd then unclosedClass s frames
    else
      let (last, s) ← s.readClassItem
      let span : Span := ⟨first.span.first, last.span.last⟩
      let first ← rangeEnd first
      let last ← rangeEnd last
      if first.char ≤ last.char then return (.range span first last, s)
      else fail span .classRangeInvalid

/-- The operation that is next, if the next two characters are one. -/
def setOperation? (s : Scanner) : Option SetOperation :=
  if s.sees '&' && s.peek == some '&' then some .intersection
  else if s.sees '-' && s.peek == some '-' then some .difference
  else if s.sees '~' && s.peek == some '~' then some .symmetricDifference
  else none

/-- Reads the rest of a class inside the frames around it; each step reads a character. -/
def readClassFrom : Nat → List ClassFrame → ClassItems → Scanner → Scan (ClassTree × Scanner)
  | 0, frames, _, s => unclosedClass s frames
  | fuel + 1, frames, items, s => do
    let s := s.skip
    if s.atEnd then unclosedClass s frames
    else if s.sees '[' then
      match if frames.isEmpty then none else s.readAsciiClass? with
      | some (tree, s) => readClassFrom fuel frames (items.push tree) s
      | none =>
        let (frame, inner, s) ← openClass items s
        readClassFrom fuel (frame :: frames) inner s
    else if s.sees ']' then
      match closeOperation items.tree frames with
      | (inner, .brackets before opening negated :: rest) =>
        let s := s.bump
        let tree := ClassTree.bracketed (s.since opening.first) negated inner
        if rest.isEmpty then .ok (tree, s) else readClassFrom fuel rest (before.push tree) s
      | _ => unclosedClass s frames
    else
      match s.setOperation? with
      | some op =>
        let s := s.bumpBy 2
        let (left, frames) := closeOperation items.tree frames
        readClassFrom fuel (.operation op left :: frames) (.none s.place) s
      | none =>
        let (tree, s) ← readRange frames s
        readClassFrom fuel frames (items.push tree) s

/-- Reads a class at its opening bracket. -/
def readClass (s : Scanner) : Scan (ClassTree × Scanner) :=
  readClassFrom (s.rest.length + 1) [] (.none s.place) s

end Scanner

end DocQuery.Regex
