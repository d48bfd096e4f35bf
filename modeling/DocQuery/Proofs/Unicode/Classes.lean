import DocQuery.Proofs.Unicode.Ranges
import DocQuery.Unicode.Classes

/-!
# Classes of characters

How blanks, digits, numbers and letters lie to each other: decimal digits are numbers, blanks are
neither letters nor numbers, and in Latin-1 a few ranges say which character is what.
-/

namespace DocQuery.Unicode

/-- The digits zero, Unicode version 17. The decimal digits stand in runs of ten. -/
def digitZeros : List Nat := [
  0x30, 0x660, 0x6F0, 0x7C0, 0x966, 0x9E6, 0xA66, 0xAE6, 0xB66, 0xBE6, 0xC66, 0xCE6, 0xD66, 0xDE6,
  0xE50, 0xED0, 0xF20, 0x1040, 0x1090, 0x17E0, 0x1810, 0x1946, 0x19D0, 0x1A80, 0x1A90, 0x1B50,
  0x1BB0, 0x1C40, 0x1C50, 0xA620, 0xA8D0, 0xA900, 0xA9D0, 0xA9F0, 0xAA50, 0xABF0, 0xFF10, 0x104A0,
  0x10D30, 0x10D40, 0x11066, 0x110F0, 0x11136, 0x111D0, 0x112F0, 0x11450, 0x114D0, 0x11650,
  0x116C0, 0x116D0, 0x116DA, 0x11730, 0x118E0, 0x11950, 0x11BF0, 0x11C50, 0x11D50, 0x11DA0,
  0x11DE0, 0x11F50, 0x16130, 0x16A60, 0x16AC0, 0x16B50, 0x16D70, 0x1CCF0, 0x1D7CE, 0x1D7D8,
  0x1D7E2, 0x1D7EC, 0x1D7F6, 0x1E140, 0x1E2F0, 0x1E4F0, 0x1E5F1, 0x1E950, 0x1FBF0]

/-- The code points of the general category `Nd`. -/
def decimalRanges : List CodeRange := digitZeros.map fun first => ⟨first, first + 9⟩

/-- Whether a character is a decimal digit. -/
def isDecimalDigit (c : Char) : Bool := CodeRange.anyContains decimalRanges c

/-- Whether a character is ASCII punctuation. -/
def isAsciiPunctuation (c : Char) : Bool :=
  CodeRange.anyContains [⟨0x21, 0x2F⟩, ⟨0x3A, 0x40⟩, ⟨0x5B, 0x60⟩, ⟨0x7B, 0x7E⟩] c

/-- Punctuation of ASCII is in ASCII. -/
theorem lt_of_isAsciiPunctuation {c : Char} (h : isAsciiPunctuation c) : c.toNat < 0x80 :=
  CodeRange.lt_of_anyHas (by decide) h

/-- Decimal digits are numbers, and blanks are neither letters nor numbers. -/
theorem tables_of_classes :
    CodeRange.maskOf decimalRanges &&& CodeRange.maskOf numericRanges =
      CodeRange.maskOf decimalRanges ∧
    CodeRange.maskOf blankRanges &&& CodeRange.maskOf alphabeticRanges = 0 ∧
    CodeRange.maskOf blankRanges &&& CodeRange.maskOf numericRanges = 0 := by
  decide +kernel

/-- Decimal digits are numbers. -/
theorem isNumeric_of_isDecimalDigit {c : Char} (h : isDecimalDigit c) : isNumeric c :=
  CodeRange.anyHas_of_subset tables_of_classes.1 h

/-- Letters are letters or numbers. -/
theorem isAlphanumeric_of_isAlphabetic {c : Char} (h : isAlphabetic c) : isAlphanumeric c := by
  rw [isAlphanumeric, h, Bool.true_or]

/-- Numbers are letters or numbers. -/
theorem isAlphanumeric_of_isNumeric {c : Char} (h : isNumeric c) : isAlphanumeric c := by
  rw [isAlphanumeric, h, Bool.or_true]

/-- Blanks are neither letters nor numbers. -/
theorem not_isAlphanumeric_of_isBlank {c : Char} (h : isBlank c) : ¬isAlphanumeric c := by
  have halphabetic : isAlphabetic c = false :=
    CodeRange.not_anyHas_of_disjoint tables_of_classes.2.1 h
  have hnumeric : isNumeric c = false := CodeRange.not_anyHas_of_disjoint tables_of_classes.2.2 h
  rw [isAlphanumeric, halphabetic, hnumeric]
  exact Bool.false_ne_true

/-- The first ranges of each class are those of Latin-1. -/
theorem classes_of_lt {c : Char} (hc : c.toNat < 0x100) :
    isAlphabetic c = CodeRange.anyContains (alphabeticRanges.take 8) c ∧
    isNumeric c = CodeRange.anyContains (numericRanges.take 4) c ∧
    isDecimalDigit c = CodeRange.anyContains (decimalRanges.take 1) c :=
  ⟨CodeRange.anyHas_take (by decide +kernel) hc, CodeRange.anyHas_take (by decide +kernel) hc,
    CodeRange.anyHas_take (by decide +kernel) hc⟩

end DocQuery.Unicode
