import DocQuery.Unicode.Classes
import DocQuery.Unicode.Lowercase

/-!
# Collation weights of characters

Every character has a weight of three levels. The primary level orders the groups: blanks and
controls, punctuation, symbols, digits, Latin letters, other letters. It ignores case, and for
the letters of the Latin-1 block also accents. The secondary level tells accents apart and the
tertiary level case, lower case first.
-/

namespace DocQuery.Collation

/-- The weight of a character. -/
structure Weight where
  primary : Nat
  secondary : Nat
  tertiary : Nat
  deriving DecidableEq, Repr

/-- Primary weights of blanks and controls start here. -/
def blankBase : Nat := 0x10

/-- Primary weights of ASCII punctuation start here. -/
def punctuationBase : Nat := 0x100

/-- Primary weights of the other characters that are neither letters nor digits start here. -/
def symbolBase : Nat := 0x1000

/-- Primary weights of the ASCII digits start here. -/
def digitBase : Nat := 0x200000

/-- Primary weights of Latin letters start here. -/
def latinBase : Nat := 0x300000

/-- Primary weights of the other letters and digits start here. -/
def otherBase : Nat := 0x400000

/-- ASCII punctuation and symbols in collation order. -/
def punctuation : List Char := "_-,;:!?.'\"()[]\x7b\x7d@*/\\&#%`^+<=>|~$".toList

/-- The accents that the secondary level tells apart, in order. -/
inductive Accent where
  | plain
  | grave
  | acute
  | circumflex
  | tilde
  | diaeresis
  | ring
  | cedilla
  | stroke
  deriving DecidableEq, Repr

/-- Secondary weight of an accent. -/
def Accent.rank : Accent → Nat
  | .plain => 0
  | .grave => 1
  | .acute => 2
  | .circumflex => 3
  | .tilde => 4
  | .diaeresis => 5
  | .ring => 6
  | .cedilla => 7
  | .stroke => 8

/-- Primary weight of an unaccented lower-case Latin letter. -/
def latin (base : Char) : Nat := latinBase + (base.toNat - 'a'.toNat) * 4

/-- An unaccented letter and the accent on it, for the accented lower-case letters of Latin-1. -/
def accented? : Char → Option (Char × Accent)
  | 'à' => some ('a', .grave)
  | 'á' => some ('a', .acute)
  | 'â' => some ('a', .circumflex)
  | 'ã' => some ('a', .tilde)
  | 'ä' => some ('a', .diaeresis)
  | 'å' => some ('a', .ring)
  | 'ç' => some ('c', .cedilla)
  | 'è' => some ('e', .grave)
  | 'é' => some ('e', .acute)
  | 'ê' => some ('e', .circumflex)
  | 'ë' => some ('e', .diaeresis)
  | 'ì' => some ('i', .grave)
  | 'í' => some ('i', .acute)
  | 'î' => some ('i', .circumflex)
  | 'ï' => some ('i', .diaeresis)
  | 'ñ' => some ('n', .tilde)
  | 'ò' => some ('o', .grave)
  | 'ó' => some ('o', .acute)
  | 'ô' => some ('o', .circumflex)
  | 'õ' => some ('o', .tilde)
  | 'ö' => some ('o', .diaeresis)
  | 'ø' => some ('o', .stroke)
  | 'ù' => some ('u', .grave)
  | 'ú' => some ('u', .acute)
  | 'û' => some ('u', .circumflex)
  | 'ü' => some ('u', .diaeresis)
  | 'ý' => some ('y', .acute)
  | 'ÿ' => some ('y', .diaeresis)
  | _ => none

/-- The basic letter after which a lower-case Latin-1 letter of its own is placed. -/
def placedAfter? : Char → Option Char
  | 'æ' => some 'a'
  | 'ð' => some 'd'
  | 'þ' => some 'z'
  | 'ß' => some 's'
  | _ => none

/-- The lower case of a letter of the Latin-1 block, and whether it is the letter itself. -/
def latin1Lower? (c : Char) : Option (Char × Bool) :=
  let code := c.toNat
  if 0xC0 ≤ code ∧ code ≤ 0xDE ∧ code ≠ 0xD7 then some (Char.ofNat (code + 0x20), false)
  else if 0xDF ≤ code ∧ code ≤ 0xFF ∧ code ≠ 0xF7 then some (c, true)
  else none

/-- The weight of a letter of the Latin-1 block. -/
def latin1? (c : Char) : Option Weight := do
  let (lower, isLower) ← latin1Lower? c
  let tertiary := if isLower then 0 else 1
  match accented? lower with
  | some (base, accent) => some ⟨latin base, accent.rank, tertiary⟩
  | none => (placedAfter? lower).map fun base => ⟨latin base + 2, 0, tertiary⟩

/-- The weight of an ASCII character. -/
def asciiWeight (c : Char) : Weight :=
  if 'a' ≤ c ∧ c ≤ 'z' then ⟨latin c, 0, 0⟩
  else if 'A' ≤ c ∧ c ≤ 'Z' then ⟨latin (Char.ofNat (c.toNat + 0x20)), 0, 1⟩
  else if '0' ≤ c ∧ c ≤ '9' then ⟨digitBase + (c.toNat - '0'.toNat), 0, 0⟩
  else match punctuation.idxOf? c with
    | some index => ⟨punctuationBase + index, 0, 0⟩
    | none => ⟨blankBase + c.toNat, 0, 0⟩

/-- The weight of a character outside ASCII and the letters of Latin-1. -/
def otherWeight (c : Char) : Weight :=
  if Unicode.isAlphanumeric c then
    let folded := Unicode.toLowerSingle c
    ⟨otherBase + folded.toNat, 0, if folded = c then 0 else 1⟩
  else ⟨symbolBase + c.toNat, 0, 0⟩

/-- The weight of a character. -/
def weight (c : Char) : Weight :=
  if c.toNat < 0x80 then asciiWeight c else (latin1? c).getD (otherWeight c)

end DocQuery.Collation
