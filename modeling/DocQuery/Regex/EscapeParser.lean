import DocQuery.Regex.Scanner
import DocQuery.Regex.Syntax

/-!
# Escapes

Reads what follows a backslash: characters by letter or by code point, classes and anchors.
-/

namespace DocQuery.Regex

/-- A part of a pattern that can also stand inside brackets, or is refused there by its span. -/
inductive Primitive where
  | literal (literal : Literal)
  | anchor (span : Span) (kind : Anchor)
  | dot (span : Span)
  | charClass (tree : ClassTree)

/-- The span of a primitive. -/
def Primitive.span : Primitive → Span
  | .literal lit => lit.span
  | .anchor span _ => span
  | .dot span => span
  | .charClass tree => tree.span

/-- The pattern that is a primitive. -/
def Primitive.tree : Primitive → Tree
  | .literal lit => .literal lit
  | .anchor span kind => .anchor span kind
  | .dot span => .dot span
  | .charClass tree => .charClass tree

/-- Characters with a meaning of their own, which a backslash takes away. -/
def metaCharacters : List Char := "\\.+*?()|[]\x7b\x7d^$#&-~".toList

/-- Whether a backslash before a character stands for the character. -/
def isEscapable (c : Char) : Bool :=
  metaCharacters.contains c || c.toNat < 0x80 && !c.isAlphanum && c != '<' && c != '>'

/-- The character that a letter after a backslash stands for. -/
def escapedControl? : Char → Option Char
  | 'a' => some '\x07'
  | 'f' => some '\x0c'
  | 't' => some '\t'
  | 'n' => some '\n'
  | 'r' => some '\r'
  | 'v' => some '\x0b'
  | _ => none

/-- The value of a hexadecimal digit. -/
def hexDigit? (c : Char) : Option Nat :=
  if '0' ≤ c ∧ c ≤ '9' then some (c.toNat - '0'.toNat)
  else if 'a' ≤ c ∧ c ≤ 'f' then some (c.toNat - 'a'.toNat + 10)
  else if 'A' ≤ c ∧ c ≤ 'F' then some (c.toNat - 'A'.toNat + 10)
  else none

/-- The character with a code point. -/
def scalar? (code : Nat) : Option Char :=
  if code < 0xD800 ∨ 0xE000 ≤ code ∧ code < 0x110000 then some (Char.ofNat code) else none

namespace Scanner

/-- Reads hexadecimal digits, a fixed number of them, with the value read before. -/
def readHexDigits : Nat → Nat → Scanner → Scan (Nat × Scanner)
  | 0, value, s => .ok (value, s)
  | count + 1, value, s =>
    match s.char? with
    | none => fail s.here .escapeUnfinished
    | some c =>
      match hexDigit? c with
      | none => fail s.charSpan .hexInvalidDigit
      | some digit => readHexDigits count (value * 16 + digit) s.bumpSkip

/-- Reads hexadecimal digits up to a closing brace, at most `fuel` of them. The first part of the
result is nothing if there are none. -/
def readHexBraced (brace : Place) : Nat → Option Nat → Scanner → Scan (Option Nat × Scanner)
  | 0, _, s => fail (s.since brace) .escapeUnfinished
  | fuel + 1, value, s =>
    match s.char? with
    | none => fail (s.since brace) .escapeUnfinished
    | some c =>
      if c = '\x7d' then .ok (value, s)
      else match hexDigit? c with
        | none => fail s.charSpan .hexInvalidDigit
        | some digit => readHexBraced brace fuel (some (value.getD 0 * 16 + digit)) s.bumpSkip

/-- Reads a code point after the letter of its escape: braced, or a fixed number of digits. -/
def readHex (first : Place) (letter : Char) (s : Scanner) : Scan (Literal × Scanner) := do
  let s := s.bumpSkip
  if s.atEnd then fail s.here .escapeUnfinished
  else if s.sees '\x7b' then
    let brace := s.place
    let digits := s.bump.place
    let (value, s) ← readHexBraced brace (s.rest.length + 1) none s.bumpSkip
    let stop := s.place
    let s := s.bumpSkip
    match value with
    | none => fail (s.since brace) .hexEmpty
    | some value =>
      match scalar? value with
      | none => fail ⟨digits, stop⟩ .hexInvalid
      | some c => .ok (⟨s.since first, c, false⟩, s)
  else
    let digits := s.place
    let count := if letter = 'x' then 2 else if letter = 'u' then 4 else 8
    let (value, s) ← readHexDigits count 0 s
    match scalar? value with
    | none => fail (s.since digits) .hexInvalid
    | some c => .ok (⟨s.since first, c, letter = 'x'⟩, s)

/-- Reads the name of a Unicode class up to its closing brace, at most `fuel` characters. -/
def readName : Nat → List Char → Scanner → Scan (List Char × Scanner)
  | 0, _, s => fail s.here .escapeUnfinished
  | fuel + 1, name, s =>
    match s.char? with
    | none => fail s.here .escapeUnfinished
    | some c =>
      if c = '\x7d' then .ok (name.reverse, s.bump) else readName fuel (c :: name) s.bumpSkip

/-- The part of a list before an infix and the part after it. -/
def splitAt? (infixText : List Char) : List Char → Option (List Char × List Char)
  | [] => none
  | c :: rest =>
    if infixText.isPrefixOf (c :: rest) then some ([], (c :: rest).drop infixText.length)
    else (splitAt? infixText rest).map fun (before, after) => (c :: before, after)

/-- What the name of a Unicode class asks for, and whether it asks for all else. -/
def propertyQuery (name : List Char) : PropertyQuery × Bool :=
  let query : List Char × List Char → PropertyQuery := fun (property, value) =>
    .valued (String.ofList property) (String.ofList value)
  match splitAt? ['!', '='] name, (splitAt? [':'] name).or (splitAt? ['='] name) with
  | some parts, _ => (query parts, true)
  | none, some parts => (query parts, false)
  | none, none => (.named (String.ofList name), false)

/-- Reads a Unicode class after the letter of its escape. -/
def readProperty (first : Place) (negated : Bool) (s : Scanner) : Scan (ClassTree × Scanner) := do
  let s := s.bumpSkip
  match s.char? with
  | none => fail s.here .escapeUnfinished
  | some c =>
    if c = '\x7b' then
      let (name, s) ← readName (s.rest.length + 1) [] s.bumpSkip
      let (query, inverted) := propertyQuery name
      .ok (.property (s.since first) query (negated != inverted), s)
    else if c = '\\' then fail s.charSpan .unicodeClassInvalid
    else
      let s := s.bumpSkip
      .ok (.property (s.since first) (.named (String.singleton c)) negated, s)

/-- Whether a character can stand in the name of a kind of word boundary. -/
def isBoundaryName (c : Char) : Bool := c.isAlpha || c == '-'

/-- Reads the name of a kind of word boundary, at most `fuel` characters. -/
def readBoundaryName : Nat → List Char → Scanner → List Char × Scanner
  | 0, name, s => (name.reverse, s)
  | fuel + 1, name, s =>
    match s.char? with
    | none => (name.reverse, s)
    | some c =>
      if isBoundaryName c then readBoundaryName fuel (c :: name) s.bumpSkip
      else (name.reverse, s)

/-- Reads the braces after a word boundary, which name a kind of it unless they hold a count. -/
def readBoundary (first : Place) (s : Scanner) : Scan (Option Anchor × Scanner) :=
  let inside := s.bumpSkip
  match inside.char? with
  | none => fail (inside.since first) .boundaryOrRepetitionUnfinished
  | some c =>
    if isBoundaryName c then
      let (name, after) := readBoundaryName (inside.rest.length + 1) [] inside
      if after.sees '\x7d' then
        match String.ofList name with
        | "start" => .ok (some .boundaryStart, after.bump)
        | "end" => .ok (some .boundaryEnd, after.bump)
        | "start-half" => .ok (some .boundaryStartHalf, after.bump)
        | "end-half" => .ok (some .boundaryEndHalf, after.bump)
        | _ => fail (after.since inside.place) .boundaryUnrecognized
      else fail (after.since s.place) .boundaryUnclosed
    else .ok (none, s)

/-- Reads an escape. -/
def readEscape (s : Scanner) : Scan (Primitive × Scanner) := do
  let first := s.place
  let s := s.bump
  match s.char? with
  | none => fail (s.since first) .escapeUnfinished
  | some c =>
    let after := s.bump
    let span := after.since first
    let letterClass (kind : LetterClass) (negated : Bool) : Scan (Primitive × Scanner) :=
      .ok (.charClass (.letter span kind negated), after)
    let anchor (kind : Anchor) : Scan (Primitive × Scanner) := .ok (.anchor span kind, after)
    if c.isDigit then fail span .backreference
    else if isEscapable c then .ok (.literal ⟨span, c, false⟩, after)
    else match escapedControl? c, c with
      | some control, _ => .ok (.literal ⟨span, control, false⟩, after)
      | none, 'd' => letterClass .digit false
      | none, 'D' => letterClass .digit true
      | none, 's' => letterClass .space false
      | none, 'S' => letterClass .space true
      | none, 'w' => letterClass .word false
      | none, 'W' => letterClass .word true
      | none, 'A' => anchor .textStart
      | none, 'z' => anchor .textEnd
      | none, 'B' => anchor .notBoundary
      | none, '<' => anchor .boundaryStart
      | none, '>' => anchor .boundaryEnd
      | none, 'b' =>
        if after.sees '\x7b' then
          match ← after.readBoundary first with
          | (some kind, after) => .ok (.anchor (after.since first) kind, after)
          | (none, after) => .ok (.anchor span .boundary, after)
        else anchor .boundary
      | none, _ =>
        if c = 'x' || c = 'u' || c = 'U' then
          let (lit, after) ← s.readHex first c
          .ok (.literal lit, after)
        else if c = 'p' || c = 'P' then
          let (tree, after) ← s.readProperty first (c == 'P')
          .ok (.charClass tree, after)
        else fail span .escapeUnrecognized

end Scanner

end DocQuery.Regex
