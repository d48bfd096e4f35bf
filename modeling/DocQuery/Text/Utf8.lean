/-!
# Bytes in UTF-8

How far a sequence of bytes is the encoding of a text.
-/

namespace DocQuery.Utf8

/-- The text that bytes encode. -/
def decode? (bytes : List UInt8) : Option String := String.fromUTF8? ⟨bytes.toArray⟩

/-- The number of bytes of the first character, if bytes start with the encoding of one. -/
def firstLength? (bytes : List UInt8) : Option Nat :=
  [1, 2, 3, 4].find? fun n => n ≤ bytes.length && (decode? (bytes.take n)).isSome

/-- The number of bytes before the first one that no character starts with; the count of characters
is at most `fuel`. -/
def validLengthFrom : Nat → List UInt8 → Nat
  | 0, _ => 0
  | fuel + 1, bytes =>
    match firstLength? bytes with
    | some n => n + validLengthFrom fuel (bytes.drop n)
    | none => 0

/-- The number of bytes before the first one that no character starts with. -/
def validLength (bytes : List UInt8) : Nat := validLengthFrom bytes.length bytes

end DocQuery.Utf8
