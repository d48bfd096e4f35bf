import DocQuery.Unicode.CaseFolding
import DocQuery.Unicode.Classes

/-!
# Sets of characters

A set of characters is a list of ranges of code points in increasing order that neither overlap
nor touch. The surrogates are code points but no characters. Ranges on both sides of them stay
apart, although they have no character between them.
-/

namespace DocQuery

/-- A set of characters. -/
structure CharSet where
  ranges : List CodeRange
  deriving DecidableEq, Repr

namespace CharSet

/-- The greatest code point. -/
def maxCode : Nat := 0x10FFFF

/-- The code point of the character after one. -/
def codeAfter (code : Nat) : Nat := if code = 0xD7FF then 0xE000 else code + 1

/-- The code point of the character before one. -/
def codeBefore (code : Nat) : Nat := if code = 0xE000 then 0xD7FF else code - 1

/-- Joins ranges that overlap or touch a first one, all in the order of their first code points. -/
def joinFrom (r : CodeRange) : List CodeRange → List CodeRange
  | [] => [r]
  | s :: rest =>
    if s.first ≤ r.last + 1 then joinFrom ⟨r.first, max r.last s.last⟩ rest
    else r :: joinFrom s rest

/-- The set of the code points of some ranges. -/
def ofRanges (ranges : List CodeRange) : CharSet :=
  match ranges.mergeSort fun r s => r.first ≤ s.first with
  | [] => ⟨[]⟩
  | r :: rest => ⟨joinFrom r rest⟩

/-- The set without characters. -/
def empty : CharSet := ⟨[]⟩

/-- The set of several code points. -/
def ofCodes (codes : List Nat) : CharSet := ofRanges (codes.map fun code => ⟨code, code⟩)

/-- The set of a character. -/
def single (c : Char) : CharSet := ofCodes [c.toNat]

/-- The set of the characters from one to another. -/
def between (first last : Char) : CharSet := ofRanges [⟨first.toNat, last.toNat⟩]

/-- Whether a code point lies in a set. -/
def containsCode (s : CharSet) (code : Nat) : Bool := s.ranges.any fun r => r.contains code

/-- Whether a character lies in a set. -/
def contains (s : CharSet) (c : Char) : Bool := s.containsCode c.toNat

/-- The characters of two sets. -/
def union (a b : CharSet) : CharSet := ofRanges (a.ranges ++ b.ranges)

/-- The range between two ranges. Around the surrogates it has no character of its own and takes the
last one of the first range and the first one of the second range. -/
def gap (r s : CodeRange) : CodeRange :=
  let first := codeAfter r.last
  let last := codeBefore s.first
  ⟨min first last, max first last⟩

/-- The ranges after a first range up to the greatest code point that lie between other ranges. -/
def gapsFrom (r : CodeRange) : List CodeRange → List CodeRange
  | [] => if r.last < maxCode then [⟨codeAfter r.last, maxCode⟩] else []
  | s :: rest => gap r s :: gapsFrom s rest

/-- The characters that are not in a set. -/
def complement (a : CharSet) : CharSet :=
  match a.ranges with
  | [] => ⟨[⟨0, maxCode⟩]⟩
  | r :: rest => ⟨(if 0 < r.first then [⟨0, codeBefore r.first⟩] else []) ++ gapsFrom r rest⟩

/-- The common part of two ranges, if there is one. -/
def overlap? (r s : CodeRange) : Option CodeRange :=
  let common : CodeRange := ⟨max r.first s.first, min r.last s.last⟩
  if common.first ≤ common.last then some common else none

/-- The common parts of two lists of ranges in order. Of the first ranges the one that ends first
has no part in common with the rest of the other list. -/
def commonParts : List CodeRange → List CodeRange → List CodeRange
  | [], _ => []
  | _, [] => []
  | r :: rs, s :: ss =>
    (overlap? r s).toList ++
      if r.last < s.last then commonParts rs (s :: ss) else commonParts (r :: rs) ss
termination_by rs ss => rs.length + ss.length

/-- The characters in both of two sets. -/
def intersection (a b : CharSet) : CharSet := ⟨commonParts a.ranges b.ranges⟩

/-- The parts of ranges in order that lie outside of other ranges in order. -/
def partsOutside : List CodeRange → List CodeRange → List CodeRange
  | [], _ => []
  | rs, [] => rs
  | r :: rs, s :: ss =>
    if s.last < r.first then partsOutside (r :: rs) ss
    else if r.last < s.first then r :: partsOutside rs (s :: ss)
    else
      (if r.first < s.first then [⟨r.first, codeBefore s.first⟩] else []) ++
        if s.last < r.last then partsOutside (⟨codeAfter s.last, r.last⟩ :: rs) ss
        else partsOutside rs (s :: ss)
termination_by rs ss => rs.length + ss.length

/-- The characters in the first of two sets only. -/
def difference (a b : CharSet) : CharSet := ⟨partsOutside a.ranges b.ranges⟩

/-- The characters in exactly one of two sets. -/
def symmetricDifference (a b : CharSet) : CharSet := (a.union b).difference (a.intersection b)

/-- Adds code points to a set. -/
def insertCodes (a : CharSet) (codes : List Nat) : CharSet := a.union (ofCodes codes)

/-- The characters that differ from those of a set by case only: the folded forms of its characters,
and then all characters with these folded forms. -/
def closeCase (a : CharSet) : CharSet :=
  let folded := a.insertCodes (Unicode.foldings.filterMap fun (code, form) =>
    if a.containsCode code then some form else none)
  folded.insertCodes (Unicode.foldings.filterMap fun (code, form) =>
    if folded.containsCode form then some code else none)

/-- The ASCII letters of a set in both cases, with its other characters. -/
def closeAsciiCase (a : CharSet) : CharSet :=
  a.insertCodes
    ((List.range' 0x41 26).flatMap fun upper =>
      (if a.containsCode upper then [upper + 0x20] else []) ++
        if a.containsCode (upper + 0x20) then [upper] else [])

end CharSet

end DocQuery
