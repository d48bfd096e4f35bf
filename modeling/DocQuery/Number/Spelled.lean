import DocQuery.Number

/-!
# Numbers spelled in strings

A number given as a string: an unsigned or signed integer of 64 bits, or a decimal number with an
optional point and exponent, rounded to the nearest binary64 number.
-/

namespace DocQuery

/-- The nearest end of the signed 64-bit range, for an integer beyond it. -/
def clampSigned (n : Int) : Int := max (-Number.signedBound) (min (Number.signedBound - 1) n)

namespace Spelled

/-- The number written by decimal digits; there has to be one. -/
def digits? (chars : List Char) : Option Nat :=
  if !chars.isEmpty && chars.all Char.isDigit then
    some (chars.foldl (fun n c => n * 10 + (c.toNat - '0'.toNat)) 0)
  else none

/-- Takes a sign off: whether it is a minus, and what follows. -/
def sign : List Char → Bool × List Char
  | '-' :: rest => (true, rest)
  | '+' :: rest => (false, rest)
  | chars => (false, chars)

/-- Digits with an optional sign. -/
def integer? (chars : List Char) : Option Int :=
  let (negative, rest) := sign chars
  (digits? rest).map fun n => if negative then -(n : Int) else n

/-- An integer of the signed 64-bit range. -/
def signed? (s : String) : Option Int :=
  (integer? s.toList).filter Number.isSigned

/-- An integer of the unsigned 64-bit range, without a minus. -/
def unsigned? (s : String) : Option Nat :=
  let (negative, rest) := sign s.toList
  if negative then none else (digits? rest).filter (· < UInt64.size)

/-- A decimal numeral without a sign: digits with an optional point among them, at least one digit,
and an optional exponent. -/
def decimal? (chars : List Char) : Option Decimal := do
  let whole := chars.takeWhile Char.isDigit
  let rest := chars.drop whole.length
  let fraction := if rest.head? = some '.' then (rest.drop 1).takeWhile Char.isDigit else []
  let rest := if rest.head? = some '.' then rest.drop (fraction.length + 1) else rest
  let digits ← digits? (whole ++ fraction)
  let exponent ← match rest with
    | [] => some 0
    | e :: power => if e = 'e' || e = 'E' then integer? power else none
  some ⟨digits, exponent - fraction.length⟩

/-- The nearest binary64 number to a numeral, if finite. Numerals far out of range are decided by
their leading digits. -/
def round? (negative : Bool) (d : Decimal) : Option Binary64 :=
  let lead := d.exponent + (Nat.toDigits 10 d.digits).length
  if d.digits = 0 || lead < -400 then some { Binary64.zero with negative := negative }
  else if 400 < lead then none
  else d.nearest? negative

/-- A decimal number, if finite. -/
def real? (s : String) : Option Binary64 := do
  let (negative, rest) := sign s.toList
  round? negative (← decimal? rest)

/-- An integer of the signed 64-bit range, or the integer part of a decimal number, which is taken
to the nearest end of the range if it lies beyond. -/
def truncated? (s : String) : Option Int :=
  (signed? s).or ((real? s).map fun x => clampSigned x.trunc)

end Spelled

end DocQuery
