import DocQuery.Text.Utf8

/-!
# Base64

Bytes written in groups of four characters for three bytes. The last group is filled up by equals
signs, and the bits it does not need are zero, so that bytes have one written form only.
-/

namespace DocQuery.Base64

/-- The value of a character. -/
def value? (c : Char) : Option Nat :=
  if c.isUpper then some (c.toNat - 'A'.toNat)
  else if c.isLower then some (c.toNat - 'a'.toNat + 26)
  else if c.isDigit then some (c.toNat - '0'.toNat + 52)
  else if c = '+' then some 62
  else if c = '/' then some 63
  else none

/-- The low eight bits of a number. -/
def byte (n : Nat) : UInt8 := UInt8.ofNat (n % 256)

/-- The bytes that characters stand for. -/
def decodeChars : List Char → Option (List UInt8)
  | [] => some []
  | [a, b, '=', '='] => do
    let a ← value? a
    let b ← value? b
    if b % 16 = 0 then some [byte (a * 4 + b / 16)] else none
  | [a, b, c, '='] => do
    let a ← value? a
    let b ← value? b
    let c ← value? c
    if c % 4 = 0 then some [byte (a * 4 + b / 16), byte (b * 16 + c / 4)] else none
  | a :: b :: c :: d :: rest => do
    let a ← value? a
    let b ← value? b
    let c ← value? c
    let d ← value? d
    let bytes ← decodeChars rest
    some (byte (a * 4 + b / 16) :: byte (b * 16 + c / 4) :: byte (c * 64 + d) :: bytes)
  | _ => none

/-- The bytes that a text stands for. -/
def decode (s : String) : Option (List UInt8) := decodeChars s.toList

/-- The text written in UTF-8 that a text stands for. -/
def decodeText (s : String) : Option String := (decode s).bind Utf8.decode?

end DocQuery.Base64
