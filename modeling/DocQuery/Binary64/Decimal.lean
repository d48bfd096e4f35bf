import DocQuery.Binary64.Basic

/-!
# Decimal numerals and their text

A decimal numeral is `digits * 10 ^ exponent`. This module rounds numerals to binary64, finds the
shortest numeral that reads back as a given number, and writes it: positional for leading digits
from `10 ^ -5` to `10 ^ 15`, with an exponent otherwise.
-/

namespace DocQuery

/-- The numeral `digits * 10 ^ exponent`. -/
structure Decimal where
  digits : Nat
  exponent : Int
  deriving DecidableEq, Repr

namespace Decimal

/-- The exact quotient that a numeral stands for. -/
def quotient (d : Decimal) : Nat × Nat :=
  if 0 ≤ d.exponent then (d.digits * Nat.pow 10 d.exponent.toNat, 1)
  else (d.digits, Nat.pow 10 (-d.exponent).toNat)

/-- The nearest binary64 number of the given sign, if finite. -/
def nearest? (d : Decimal) (negative : Bool) : Option Binary64 :=
  Binary64.ofQuotient? negative d.quotient.1 d.quotient.2

/-- Drops trailing zeros of the digits, at most `fuel` of them. -/
def trim : Nat → Decimal → Decimal
  | 0, d => d
  | fuel + 1, d =>
    if d.digits ≠ 0 ∧ d.digits % 10 = 0 then trim fuel ⟨d.digits / 10, d.exponent + 1⟩ else d

/-- The text of a numeral with at least one fraction digit or an exponent. -/
def text (d : Decimal) : String :=
  let ds := Nat.toDigits 10 d.digits
  let n := ds.length
  let lead := d.exponent + n - 1
  if -5 ≤ lead ∧ lead ≤ 15 then
    if 0 ≤ d.exponent then
      String.ofList (ds ++ List.replicate d.exponent.toNat '0' ++ ['.', '0'])
    else if 0 ≤ lead then
      String.ofList (ds.take (lead.toNat + 1) ++ '.' :: ds.drop (lead.toNat + 1))
    else
      String.ofList ('0' :: '.' :: (List.replicate (-lead - 1).toNat '0' ++ ds))
  else
    let mantissa := if n = 1 then ds else ds.take 1 ++ '.' :: ds.drop 1
    let sign := if lead < 0 then '-' else '+'
    String.ofList (mantissa ++ 'e' :: sign :: Nat.toDigits 10 lead.natAbs)

end Decimal

namespace Binary64

/-- The least `j` from `tried` on with `one ≤ n * 10 ^ j`, tried at most `fuel` times. -/
def leastShift : (fuel tried n : Nat) → Nat
  | 0, tried, _ => tried
  | fuel + 1, tried, n => if one ≤ n then tried else leastShift fuel (tried + 1) (n * 10)

/-- The exponent of the leading decimal digit of a positive magnitude. -/
def leadingExponent (magnitude : Nat) : Int :=
  if one ≤ magnitude then (Nat.toDigits 10 (magnitude / one)).length - 1
  else -(leastShift 330 0 magnitude)

/-- The numeral nearest to `num / den` units of the digit at an exponent among its two neighbours
that pass a test, an exact tie going to the even numeral. -/
def nearestPassing (passes : Decimal → Bool) (num den : Nat) (exponent : Int) : Option Decimal :=
  let low : Decimal := ⟨num / den, exponent⟩
  let high : Decimal := ⟨num / den + 1, exponent⟩
  match passes low, passes high with
  | true, true => some (if nearestQuotient num den = low.digits then low else high)
  | true, false => some low
  | false, true => some high
  | false, false => none

/-- A magnitude in units of the digit at an exponent, as a quotient. -/
def inDigits (magnitude : Nat) (exponent : Int) : Nat × Nat :=
  if 0 ≤ exponent then (magnitude, one * Nat.pow 10 exponent.toNat)
  else (magnitude * Nat.pow 10 (-exponent).toNat, one)

/-- The numeral with `count` digits that reads back as the given number and is nearest to it, an
exact tie going to the even numeral. -/
def readsBackWith (x : Binary64) (count : Nat) : Option Decimal :=
  let exponent := leadingExponent x.magnitude + 1 - count
  let value := inDigits x.magnitude exponent
  nearestPassing (fun d => d.nearest? x.negative == some x) value.1 value.2 exponent

/-- The shortest numeral that reads back as the given magnitude; seventeen digits always do. -/
def shortest (x : Binary64) : Decimal :=
  if x.isZero then ⟨0, 0⟩
  else (((List.range' 1 17).findSome? x.readsBackWith).getD ⟨0, 0⟩).trim 20

/-- The text of a number: its sign and its shortest numeral. -/
def text (x : Binary64) : String :=
  if x.negative then "-" ++ x.shortest.text else x.shortest.text

end Binary64

end DocQuery
