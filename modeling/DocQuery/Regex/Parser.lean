import DocQuery.Regex.ClassParser
import DocQuery.Unicode.Classes

/-!
# Parsing patterns

Reads a pattern into its syntax tree. Groups that are open are kept on a stack, so that a group
may hold flags for the rest of it and an alternation may grow branch by branch.
-/

namespace DocQuery.Regex

/-- The parts of a pattern read one after another so far, the last one first. -/
structure Sequence where
  first : Place
  parts : List Tree

namespace Sequence

/-- Adds a part. -/
def push (q : Sequence) (tree : Tree) : Sequence := { q with parts := tree :: q.parts }

/-- The pattern of the parts, up to a place. -/
def tree (q : Sequence) (last : Place) : Tree :=
  match q.parts with
  | [] => .empty ⟨q.first, last⟩
  | [part] => part
  | parts => .concat ⟨q.first, last⟩ parts.reverse

end Sequence

/-- What is open around the parts being read. -/
inductive GroupFrame where
  /-- A group, with the parts before it, the span of its opening, whether its text is kept, its
  flags, and whether blanks were skipped outside of it. -/
  | group (before : Sequence) (opening : Span) (kept : Bool) (items : List FlagItem)
    (verbose : Bool)
  /-- An alternation, with its branches so far, the last one first. -/
  | alternation (first : Place) (branches : List Tree)

/-- How often a part of a pattern is repeated. -/
structure Counts where
  least : Nat
  most : Option Nat
  reluctant : Bool

/-- What the opening of a group is. -/
inductive GroupOpening where
  /-- Flags for what follows. -/
  | flags (span : Span) (items : List FlagItem)
  /-- A group that may keep its text, with flags of its own. -/
  | group (kept : Bool) (items : List FlagItem)
  /-- A group with a name. -/
  | named (name : String) (span : Span)

/-- The flag of a letter. -/
def flag? : Char → Option Flag
  | 'i' => some .caseInsensitive
  | 'm' => some .multiLine
  | 's' => some .dotMatchesNewline
  | 'U' => some .swapGreed
  | 'u' => some .unicode
  | 'R' => some .crlf
  | 'x' => some .verbose
  | _ => none

/-- Whether a character can stand in the name of a group. -/
def isNameChar (c : Char) (first : Bool) : Bool :=
  if first then c == '_' || Unicode.isAlphabetic c
  else c == '_' || c == '.' || c == '[' || c == ']' || Unicode.isAlphanumeric c

namespace Scanner

/-- Reads flags up to a colon or a closing parenthesis. Flags read before come with their spans,
the last one first. -/
def readFlags : Nat → List (FlagItem × Span) → Scanner → Scan (List FlagItem × Scanner)
  | 0, _, s => fail s.here .flagUnfinished
  | fuel + 1, read, s =>
    match s.char? with
    | none => fail s.here .flagUnfinished
    | some c =>
      if c = ':' || c = ')' then
        match read with
        | (.negation, span) :: _ => fail span .flagDanglingNegation
        | _ => .ok ((read.map Prod.fst).reverse, s)
      else
        let item? : Option FlagItem := if c = '-' then some .negation else (flag? c).map .flag
        match item? with
        | none => fail s.charSpan .flagUnrecognized
        | some item =>
          match read.find? fun entry => entry.1 == item with
          | some (_, span) =>
            let mistake := if c = '-' then .flagRepeatedNegation else .flagDuplicate
            .error ⟨mistake, s.charSpan, some span⟩
          | none => readFlags fuel ((item, s.charSpan) :: read) s.bump

/-- Reads the characters of the name of a group. -/
def readNameChars : Nat → List Char → Scanner → Scan (List Char × Scanner)
  | 0, name, s => .ok (name.reverse, s)
  | fuel + 1, name, s =>
    match s.char? with
    | none => .ok (name.reverse, s)
    | some c =>
      if c = '>' then .ok (name.reverse, s)
      else if isNameChar c name.isEmpty then readNameChars fuel (c :: name) s.bump
      else fail s.charSpan .groupNameInvalid

/-- Reads the name of a group and its closing bracket. -/
def readGroupName (s : Scanner) : Scan (GroupOpening × Scanner) := do
  let first := s.place
  let (name, s) ← readNameChars (s.rest.length + 1) [] s
  if s.atEnd then fail s.here .groupNameUnfinished
  else if name.isEmpty then fail (.empty first) .groupNameEmpty
  else .ok (.named (String.ofList name) (s.since first), s.bump)

/-- Reads the opening of a group. -/
def openGroup (s : Scanner) : Scan (GroupOpening × Scanner) := do
  let opening := s.charSpan
  let s := s.bumpSkip
  let lookAround := ["?=", "?!", "?<=", "?<!"].findSome? s.accept?
  match lookAround, (s.accept? "?P<").or (s.accept? "?<"), s.accept? "?" with
  | some s, _, _ => fail (s.since opening.first) .lookAround
  | none, some s, _ => s.readGroupName
  | none, none, some inside =>
    if inside.atEnd then fail opening .groupUnclosed
    else
      let (items, after) ← readFlags (inside.rest.length + 1) [] inside
      if after.sees ')' then
        if items.isEmpty then fail s.here .repetitionMissing
        else .ok (.flags (after.bump.since opening.first) items, after.bump)
      else .ok (.group false items, after.bump)
  | none, none, none => .ok (.group true [], s)

/-- Reads the digits of a count, at most `fuel` of them. -/
def readDigits : Nat → List Char → Scanner → List Char × Scanner
  | 0, digits, s => (digits.reverse, s)
  | fuel + 1, digits, s =>
    match s.char? with
    | none => (digits.reverse, s)
    | some c => if c.isDigit then readDigits fuel (c :: digits) s.bumpSkip else (digits.reverse, s)

/-- Skips blanks after a count, and comments after them where they are skipped. -/
def skipAfterCount : Nat → Scanner → Scanner
  | 0, s => s
  | fuel + 1, s =>
    if s.char?.any Unicode.isBlank then skipAfterCount fuel s.bumpSkip else s

/-- Reads a count between blanks. The count may be a mistake that shows only where it is needed. -/
def readCount (s : Scanner) : Scan Nat × Scanner :=
  let s := s.dropBlanks
  let first := s.place
  let (digits, s) := readDigits (s.rest.length + 1) [] s
  let span := s.since first
  let after := skipAfterCount (s.rest.length + 1) s
  let value := digits.foldl (fun n c => n * 10 + (c.toNat - '0'.toNat)) 0
  if digits.isEmpty then (fail span .repetitionCountEmpty, after)
  else if value < UInt32.size then (.ok value, after)
  else (fail span .decimalInvalid, after)

/-- Reads a question mark, if one is next, which makes a repetition reluctant. -/
def readReluctance (s : Scanner) : Bool × Scanner :=
  if s.sees '?' then (true, s.bump) else (false, s)

/-- Reads the counts of a repetition in braces: the least and the most number of times. -/
def readCounts (s : Scanner) : Scan (Counts × Scanner) := do
  let first := s.place
  let unclosed {α : Type} (s : Scanner) : Scan α := fail (s.since first) .repetitionCountUnclosed
  let s := s.bumpSkip
  if s.atEnd then unclosed s
  else
    let (least, s) := s.readCount
    if s.atEnd then unclosed s
    else
      let (counts, s) ←
        if s.sees ',' then
          let s := s.bumpSkip
          if s.atEnd then unclosed s
          else if s.sees '\x7d' then pure ((← least, none), s)
          else
            let least ← least
            let (most, s) := s.readCount
            pure ((least, some (← most)), s)
        else
          let count ← least
          pure ((count, some count), s)
      if !s.sees '\x7d' then unclosed s
      else
        let s := s.bumpSkip
        let (reluctant, s) := s.readReluctance
        if counts.2.any (· < counts.1) then fail (s.since first) .repetitionCountInvalid
        else .ok (⟨counts.1, counts.2, reluctant⟩, s)

/-- The counts given by a sign at the scanner, which a question mark may follow. -/
def readSign (least : Nat) (most : Option Nat) (s : Scanner) : Counts × Scanner :=
  let (reluctant, s) := s.bump.readReluctance
  (⟨least, most, reluctant⟩, s)

/-- The part that a repetition applies to and the parts before it. -/
def repeated (q : Sequence) (s : Scanner) : Scan (Tree × Sequence) :=
  match q.parts with
  | [] => fail s.here .repetitionMissing
  | .empty _ :: _ => fail s.here .repetitionMissing
  | .flags .. :: _ => fail s.here .repetitionMissing
  | part :: rest => .ok (part, { q with parts := rest })

/-- Reads a repetition of the last part. -/
def readRepetition (q : Sequence) (s : Scanner) : Scan (Sequence × Scanner) := do
  let (part, q) ← repeated q s
  let (counts, s) ←
    if s.sees '*' then .ok (s.readSign 0 none)
    else if s.sees '+' then .ok (s.readSign 1 none)
    else if s.sees '?' then .ok (s.readSign 0 (some 1))
    else s.readCounts
  let span : Span := ⟨part.span.first, s.place⟩
  .ok (q.push (.repetition span counts.least counts.most counts.reluctant part), s)

/-- Reads a character, an escape or an anchor. -/
def readPrimitive (s : Scanner) : Scan (Primitive × Scanner) :=
  match s.char? with
  | none => .ok (.dot s.here, s)
  | some c =>
    if c = '\\' then s.readEscape
    else if c = '.' then .ok (.dot s.charSpan, s.bump)
    else if c = '^' then .ok (.anchor s.charSpan .lineStart, s.bump)
    else if c = '$' then .ok (.anchor s.charSpan .lineEnd, s.bump)
    else .ok (.literal ⟨s.charSpan, c, false⟩, s.bump)

/-- Ends a group at its closing parenthesis. -/
def closeGroup (frames : List GroupFrame) (q : Sequence) (s : Scanner) :
    Scan (List GroupFrame × Sequence × Scanner) :=
  let close (before : Sequence) (opening : Span) (kept : Bool) (items : List FlagItem)
      (verbose : Bool) (inner : Tree) (rest : List GroupFrame) :
      Scan (List GroupFrame × Sequence × Scanner) :=
    let after := { s.bump with verbose := verbose }
    .ok (rest, before.push (.group ⟨opening.first, after.place⟩ kept items inner), after)
  match frames with
  | .group before opening kept items verbose :: rest =>
    close before opening kept items verbose (q.tree s.place) rest
  | .alternation first branches :: .group before opening kept items verbose :: rest =>
    let branches := (q.tree s.place :: branches).reverse
    close before opening kept items verbose (.alternation ⟨first, s.place⟩ branches) rest
  | _ => fail s.charSpan .groupUnopened

/-- Ends the pattern. -/
def closePattern (frames : List GroupFrame) (q : Sequence) (s : Scanner) : Scan Tree :=
  match frames with
  | [] => .ok (q.tree s.place)
  | [.alternation first branches] =>
    .ok (.alternation ⟨first, s.place⟩ (q.tree s.place :: branches).reverse)
  | .group _ opening .. :: _ => fail opening .groupUnclosed
  | .alternation .. :: .group _ opening .. :: _ => fail opening .groupUnclosed
  | .alternation .. :: .alternation .. :: _ => fail s.here .groupUnclosed

/-- Reads the rest of a pattern inside the frames around it; each step reads a character. The
names of the groups read before come with their spans. -/
def readTree : Nat → List (String × Span) → List GroupFrame → Sequence → Scanner → Scan Tree
  | 0, _, frames, q, s => closePattern frames q s
  | fuel + 1, names, frames, q, s => do
    let s := s.skip
    match s.char? with
    | none => closePattern frames q s
    | some '(' =>
      let opening := s.charSpan
      match ← s.openGroup with
      | (.flags span items, after) =>
        let verbose := (FlagItem.state? .verbose items).getD s.verbose
        readTree fuel names frames (q.push (.flags span items)) { after with verbose := verbose }
      | (.group kept items, after) =>
        let verbose := (FlagItem.state? .verbose items).getD s.verbose
        readTree fuel names (.group q opening kept items s.verbose :: frames) ⟨after.place, []⟩
          { after with verbose := verbose }
      | (.named name span, after) =>
        match names.find? fun entry => entry.1 == name with
        | some (_, other) => .error ⟨.groupNameDuplicate, span, some other⟩
        | none =>
          readTree fuel ((name, span) :: names) (.group q opening true [] s.verbose :: frames)
            ⟨after.place, []⟩ after
    | some ')' =>
      let (frames, q, s) ← closeGroup frames q s
      readTree fuel names frames q s
    | some '|' =>
      let branch := q.tree s.place
      let frames := match frames with
        | .alternation first branches :: rest => .alternation first (branch :: branches) :: rest
        | _ => .alternation q.first [branch] :: frames
      readTree fuel names frames ⟨s.bump.place, []⟩ s.bump
    | some '[' =>
      let (tree, s) ← s.readClass
      readTree fuel names frames (q.push (.charClass tree)) s
    | some c =>
      if c = '*' || c = '+' || c = '?' || c = '\x7b' then
        let (q, s) ← readRepetition q s
        readTree fuel names frames q s
      else
        let (part, s) ← s.readPrimitive
        readTree fuel names frames (q.push part.tree) s

end Scanner

/-- The number of groups, repetitions and brackets that may be nested. -/
def nestLimit : Nat := 250

mutual

/-- Checks the nesting of a class inside a number of parts that nest. -/
def ClassTree.checkNesting (depth : Nat) : ClassTree → Except Failure Unit
  | .bracketed span _ inner =>
    if nestLimit ≤ depth then fail span (.nestedTooDeep nestLimit)
    else inner.checkNesting (depth + 1)
  | .union span items =>
    if nestLimit ≤ depth then fail span (.nestedTooDeep nestLimit)
    else ClassTree.checkNestingAll (depth + 1) items
  | .operation span _ left right =>
    if nestLimit ≤ depth then fail span (.nestedTooDeep nestLimit)
    else do
      left.checkNesting (depth + 1)
      right.checkNesting (depth + 1)
  | _ => .ok ()

/-- Checks the nesting of several classes. -/
def ClassTree.checkNestingAll (depth : Nat) : List ClassTree → Except Failure Unit
  | [] => .ok ()
  | tree :: rest => do
    tree.checkNesting depth
    checkNestingAll depth rest

end

mutual

/-- Checks the nesting of a pattern inside a number of parts that nest. -/
def Tree.checkNesting (depth : Nat) : Tree → Except Failure Unit
  | .charClass tree => tree.checkNesting depth
  | .repetition span _ _ _ inner =>
    if nestLimit ≤ depth then fail span (.nestedTooDeep nestLimit)
    else inner.checkNesting (depth + 1)
  | .group span _ _ inner =>
    if nestLimit ≤ depth then fail span (.nestedTooDeep nestLimit)
    else inner.checkNesting (depth + 1)
  | .alternation span branches =>
    if nestLimit ≤ depth then fail span (.nestedTooDeep nestLimit)
    else Tree.checkNestingAll (depth + 1) branches
  | .concat span parts =>
    if nestLimit ≤ depth then fail span (.nestedTooDeep nestLimit)
    else Tree.checkNestingAll (depth + 1) parts
  | _ => .ok ()

/-- Checks the nesting of several patterns. -/
def Tree.checkNestingAll (depth : Nat) : List Tree → Except Failure Unit
  | [] => .ok ()
  | tree :: rest => do
    tree.checkNesting depth
    checkNestingAll depth rest

end

/-- The syntax tree of a pattern. -/
def parse (pattern : String) : Except Failure Tree := do
  let s := Scanner.start pattern
  let tree ← Scanner.readTree (s.rest.length + 1) [] [] ⟨s.place, []⟩ s
  tree.checkNesting 0
  return tree

end DocQuery.Regex
