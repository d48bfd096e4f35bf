import DocQuery.Unicode.CharSet

/-!
# Sets of characters in UTF-8

The encodings of a set of characters as sequences of ranges of bytes. A character is encoded if
each of its bytes lies in the range of a sequence; every character of the set is encoded by
exactly one sequence.
-/

namespace DocQuery.Utf8

/-- The bytes from one to another. -/
abbrev ByteRange := Nat × Nat

/-- Any digit to base 64. -/
def anyDigit : ByteRange := (0, 63)

/-- The sequences for numbers from one to another, written with a number of digits to base 64 after
the first digit. -/
def sequences : Nat → Nat → Nat → List (List ByteRange)
  | 0, first, last => [[(first, last)]]
  | digits + 1, first, last =>
    let unit := Nat.pow 64 (digits + 1)
    let low := first / unit
    let high := last / unit
    if low = high then
      (sequences digits (first % unit) (last % unit)).map ((low, low) :: ·)
    else
      let before := if first % unit = 0 then []
        else (sequences digits (first % unit) (unit - 1)).map ((low, low) :: ·)
      let after := if last % unit = unit - 1 then []
        else (sequences digits 0 (last % unit)).map ((high, high) :: ·)
      let low := if before.isEmpty then low else low + 1
      let high := if after.isEmpty then high + 1 else high
      let whole :=
        if low < high then [(low, high - 1) :: List.replicate (digits + 1) anyDigit] else []
      before ++ whole ++ after

/-- The code points that are encoded by a number of bytes after the first one, without surrogates,
with the mark of their first byte. -/
def blocks : List (Nat × Nat × CodeRange) := [
  (0, 0, ⟨0, 0x7F⟩), (1, 0xC0, ⟨0x80, 0x7FF⟩), (2, 0xE0, ⟨0x800, 0xD7FF⟩),
  (2, 0xE0, ⟨0xE000, 0xFFFF⟩), (3, 0xF0, ⟨0x10000, 0x10FFFF⟩)]

/-- The mark of the bytes after the first byte of a character. -/
def followerMark : Nat := 0x80

/-- Adds the marks of bytes to a sequence of digits, given that of the first byte. -/
def mark (lead : Nat) : List ByteRange → List ByteRange
  | [] => []
  | (first, last) :: rest => (lead + first, lead + last) :: mark followerMark rest

/-- The sequences for a range of code points. -/
def sequencesOfRange (r : CodeRange) : List (List ByteRange) :=
  blocks.flatMap fun (digits, lead, block) =>
    let first := max r.first block.first
    let last := min r.last block.last
    if first ≤ last then (sequences digits first last).map (mark lead) else []

/-- The sequences for a set of characters, in the order of the characters. -/
def sequencesOfSet (s : CharSet) : List (List ByteRange) := s.ranges.flatMap sequencesOfRange

end DocQuery.Utf8
