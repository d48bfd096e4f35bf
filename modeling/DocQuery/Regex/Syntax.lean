import DocQuery.Regex.Span

/-!
# Pattern syntax

The syntax tree of a pattern. Every part keeps the span it was read from, because mistakes that
show later, in the meaning of a part, are reported there.
-/

namespace DocQuery.Regex

/-- A switch of the way patterns are read or matched. -/
inductive Flag where
  | caseInsensitive
  | multiLine
  | dotMatchesNewline
  | swapGreed
  | unicode
  | crlf
  | verbose
  deriving DecidableEq, Repr

/-- An item of a list of flags: a flag, or the sign after which flags are turned off. -/
inductive FlagItem where
  | negation
  | flag (flag : Flag)
  deriving DecidableEq, Repr

/-- The state that a list of flags gives a flag, if it mentions it. -/
def FlagItem.state? (wanted : Flag) : List FlagItem → Option Bool
  | [] => none
  | .negation :: rest => if rest.contains (.flag wanted) then some false else none
  | .flag found :: rest => if found = wanted then some true else state? wanted rest

/-- A single character of a pattern. -/
structure Literal where
  span : Span
  char : Char
  /-- Whether it is written by two hexadecimal digits, as a byte can be. -/
  isHexByte : Bool
  deriving DecidableEq, Repr

/-- The classes written by a letter. -/
inductive LetterClass where
  | digit
  | space
  | word
  deriving DecidableEq, Repr

/-- The classes of ASCII characters that have names. -/
inductive AsciiClass where
  | alnum
  | alpha
  | ascii
  | blank
  | cntrl
  | digit
  | graph
  | lower
  | print
  | punct
  | space
  | upper
  | word
  | xdigit
  deriving DecidableEq, Repr

/-- A Unicode class: a name, or a property with a value. -/
inductive PropertyQuery where
  | named (name : String)
  | valued (property value : String)
  deriving DecidableEq, Repr

/-- The operations on classes inside brackets. -/
inductive SetOperation where
  | intersection
  | difference
  | symmetricDifference
  deriving DecidableEq, Repr

/-- A class of characters. -/
inductive ClassTree where
  | empty (span : Span)
  | literal (literal : Literal)
  | range (span : Span) (first last : Literal)
  | ascii (span : Span) (kind : AsciiClass) (negated : Bool)
  | property (span : Span) (query : PropertyQuery) (negated : Bool)
  | letter (span : Span) (kind : LetterClass) (negated : Bool)
  | bracketed (span : Span) (negated : Bool) (inner : ClassTree)
  | union (span : Span) (items : List ClassTree)
  | operation (span : Span) (op : SetOperation) (left right : ClassTree)

/-- The span of a class. -/
def ClassTree.span : ClassTree → Span
  | .empty span => span
  | .literal lit => lit.span
  | .range span .. => span
  | .ascii span .. => span
  | .property span .. => span
  | .letter span .. => span
  | .bracketed span .. => span
  | .union span _ => span
  | .operation span .. => span

/-- The places in a text that a pattern can ask for. -/
inductive Anchor where
  | lineStart
  | lineEnd
  | textStart
  | textEnd
  | boundary
  | notBoundary
  | boundaryStart
  | boundaryEnd
  | boundaryStartHalf
  | boundaryEndHalf
  deriving DecidableEq, Repr

/-- The syntax tree of a pattern. -/
inductive Tree where
  | empty (span : Span)
  | flags (span : Span) (items : List FlagItem)
  | literal (literal : Literal)
  | dot (span : Span)
  | anchor (span : Span) (kind : Anchor)
  | charClass (tree : ClassTree)
  /-- Another pattern several times in a row; the sign of reluctance may follow the counts. -/
  | repetition (span : Span) (least : Nat) (most : Option Nat) (reluctant : Bool) (inner : Tree)
  /-- A group with flags of its own, the text of which may be kept. -/
  | group (span : Span) (kept : Bool) (items : List FlagItem) (inner : Tree)
  | alternation (span : Span) (branches : List Tree)
  | concat (span : Span) (parts : List Tree)

/-- The span of a pattern. -/
def Tree.span : Tree → Span
  | .empty span => span
  | .flags span _ => span
  | .literal lit => lit.span
  | .dot span => span
  | .anchor span _ => span
  | .charClass tree => tree.span
  | .repetition span .. => span
  | .group span .. => span
  | .alternation span _ => span
  | .concat span _ => span

end DocQuery.Regex
