import DocQuery.Regex.Failure
import DocQuery.Regex.Settings
import DocQuery.Unicode.CharSet
import DocQuery.Unicode.Classes
import DocQuery.Unicode.Property

/-!
# Classes of characters

The characters that a class stands for. Without Unicode, classes hold ASCII characters only, and
one that would hold more is refused. If case does not matter, a class holds the variants of all
its characters, and a negation leaves out the variants too.
-/

namespace DocQuery.Regex

/-- The characters of a set with all their variants by case, if case does not matter. -/
def Settings.closeCase (s : Settings) (a : CharSet) : CharSet :=
  if !s.caseInsensitive then a else if s.unicode then a.closeCase else a.closeAsciiCase

/-- The set that an operation makes of two sets. -/
def SetOperation.apply : SetOperation → CharSet → CharSet → CharSet
  | .intersection => .intersection
  | .difference => .difference
  | .symmetricDifference => .symmetricDifference

/-- The code points of a class with an ASCII name. -/
def AsciiClass.ranges : AsciiClass → List CodeRange
  | .alnum => [⟨0x30, 0x39⟩, ⟨0x41, 0x5A⟩, ⟨0x61, 0x7A⟩]
  | .alpha => [⟨0x41, 0x5A⟩, ⟨0x61, 0x7A⟩]
  | .ascii => [⟨0x00, 0x7F⟩]
  | .blank => [⟨0x09, 0x09⟩, ⟨0x20, 0x20⟩]
  | .cntrl => [⟨0x00, 0x1F⟩, ⟨0x7F, 0x7F⟩]
  | .digit => [⟨0x30, 0x39⟩]
  | .graph => [⟨0x21, 0x7E⟩]
  | .lower => [⟨0x61, 0x7A⟩]
  | .print => [⟨0x20, 0x7E⟩]
  | .punct => [⟨0x21, 0x2F⟩, ⟨0x3A, 0x40⟩, ⟨0x5B, 0x60⟩, ⟨0x7B, 0x7E⟩]
  | .space => [⟨0x09, 0x0D⟩, ⟨0x20, 0x20⟩]
  | .upper => [⟨0x41, 0x5A⟩]
  | .word => [⟨0x30, 0x39⟩, ⟨0x41, 0x5A⟩, ⟨0x5F, 0x5F⟩, ⟨0x61, 0x7A⟩]
  | .xdigit => [⟨0x30, 0x39⟩, ⟨0x41, 0x46⟩, ⟨0x61, 0x66⟩]

/-- The decimal digits. -/
def digitSet : CharSet := .ofRanges Unicode.digitRanges

/-- The blanks. -/
def blankSet : CharSet := .ofRanges Unicode.blankRanges

/-- The characters that words are made of. -/
def wordSet : CharSet := .ofRanges Unicode.wordRanges

/-- The characters of a class written by a letter. -/
def LetterClass.set (unicode : Bool) (kind : LetterClass) : CharSet :=
  match unicode, kind with
  | true, .digit => digitSet
  | true, .space => blankSet
  | true, .word => wordSet
  | false, .digit => .ofRanges (AsciiClass.ranges .digit)
  | false, .space => .ofRanges (AsciiClass.ranges .space)
  | false, .word => .ofRanges (AsciiClass.ranges .word)

/-- The code points that a property query asks for. -/
def PropertyQuery.ranges : PropertyQuery → Except Unicode.PropertyError (List CodeRange)
  | .named name => Unicode.namedRanges name
  | .valued property value => Unicode.valuedRanges property value

/-- The mistake in a property query. -/
def Mistake.ofProperty : Unicode.PropertyError → Mistake
  | .notFound => .propertyNotFound
  | .valueNotFound => .propertyValueNotFound

/-- The complement of a set, if it is asked for, which may not be taken without Unicode. -/
def Settings.negate (s : Settings) (span : Span) (negated : Bool) (a : CharSet) :
    Except Failure CharSet :=
  if !negated then .ok a
  else if s.unicode then .ok a.complement
  else fail span .invalidUtf8

/-- The character of a literal. Without Unicode, two hexadecimal digits stand for a byte, and only
an ASCII byte is a character. -/
def Literal.meaning (s : Settings) (lit : Literal) : Except Failure Char :=
  if !s.unicode && lit.isHexByte && 0x7F < lit.char.toNat then fail lit.span .invalidUtf8
  else .ok lit.char

/-- The character of a literal in a class. Without Unicode, it must be ASCII. -/
def Literal.meaningInClass (s : Settings) (lit : Literal) : Except Failure Char := do
  let c ← lit.meaning s
  if !s.unicode && 0x7F < c.toNat then fail lit.span .unicodeNotAllowed
  else return c

mutual

/-- The characters that a class stands for. -/
def ClassTree.meaning (s : Settings) : ClassTree → Except Failure CharSet
  | .empty _ => .ok .empty
  | .literal lit => do return s.closeCase (.single (← lit.meaningInClass s))
  | .range _ first last => do
    let first ← first.meaningInClass s
    let last ← last.meaningInClass s
    return s.closeCase (.between first last)
  | .ascii span kind negated => s.negate span negated (s.closeCase (.ofRanges kind.ranges))
  | .property span query negated =>
    if !s.unicode then fail span .unicodeNotAllowed
    else
      match query.ranges with
      | .error error => fail span (.ofProperty error)
      | .ok ranges => s.negate span negated (s.closeCase (.ofRanges ranges))
  | .letter span kind negated => s.negate span negated (kind.set s.unicode)
  | .bracketed span negated inner => do s.negate span negated (← inner.meaning s)
  | .union _ items => ClassTree.meaningOfAll s items
  | .operation _ op left right => do
    let left ← left.meaning s
    let right ← right.meaning s
    return op.apply left right

/-- The characters that several classes stand for together. -/
def ClassTree.meaningOfAll (s : Settings) : List ClassTree → Except Failure CharSet
  | [] => .ok .empty
  | item :: rest => do
    let item ← item.meaning s
    return item.union (← meaningOfAll s rest)

end

end DocQuery.Regex
