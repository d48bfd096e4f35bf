import DocQuery.Number

/-!
# Numbers from decimal digits

The value of a JSON numeral. An integer that fits 64 bits is kept; any other numeral is rounded
in steps: as many leading digits as fit 64 bits form a significand, which is rounded and then
multiplied or divided by powers of ten, each step rounded. The result may differ from the nearest
number by a unit in the last place.
-/

namespace DocQuery

/-- The digits of a JSON numeral, without its exponent. -/
structure Numeral where
  negative : Bool
  /-- Digits before the point. -/
  whole : List Nat
  /-- Digits after the point, none where there is no point. -/
  fraction : List Nat
  /-- Whether there is a point or an exponent. -/
  isReal : Bool

namespace Numeral

/-- Appends digits to a significand while it fits 64 bits; the second part counts those left. -/
def absorb (significand : Nat) : List Nat → Nat × Nat
  | [] => (significand, 0)
  | digit :: rest =>
    if significand * 10 + digit < UInt64.size then absorb (significand * 10 + digit) rest
    else (significand, rest.length + 1)

/-- The significand of a numeral and the power of ten it is multiplied by. -/
def scaled (n : Numeral) : Decimal :=
  let (whole, dropped) := absorb 0 n.whole
  let (significand, left) := absorb whole n.fraction
  ⟨significand, (dropped : Int) - ((n.fraction.length - left : Nat) : Int)⟩

/-- A power of ten, rounded. -/
def powerOfTen (n : Nat) : Binary64 := Binary64.ofInt (Nat.pow 10 n)

/-- The largest power of ten that is finite. -/
def maxPower : Nat := 308

/-- Divides by a power of ten, in steps of `10 ^ 308`. -/
def divideByPower (x : Binary64) (power : Nat) : Binary64 :=
  if power ≤ maxPower then (x.div? (powerOfTen power)).getD .zero
  else if x.isZero then x
  else divideByPower ((x.div? (powerOfTen maxPower)).getD .zero) (power - maxPower)
termination_by power
decreasing_by simp only [maxPower] at *; omega

/-- Multiplies by a power of ten, if the product is finite. -/
def multiplyByPower? (x : Binary64) (power : Nat) : Option Binary64 :=
  if power ≤ maxPower then x.mul? (powerOfTen power)
  else if x.isZero then some x
  else none

/-- The binary64 number of a significand and an exponent, rounded in steps, if finite. -/
def real? (negative : Bool) (d : Decimal) : Option Binary64 :=
  let x := Binary64.ofInt d.digits
  let scaled := if 0 ≤ d.exponent then multiplyByPower? x d.exponent.toNat
    else some (divideByPower x (-d.exponent).toNat)
  scaled.map fun y => if negative then y.neg else y

/-- The number of a numeral whose exponent part is given, if it is in range. -/
def number? (n : Numeral) (exponent : Int) : Option Number :=
  let d := n.scaled
  let value : Int := if n.negative then -d.digits else d.digits
  if h : !n.isReal ∧ d.exponent = 0 ∧ ¬(n.negative ∧ d.digits = 0) ∧
      -Number.signedBound ≤ value ∧ value < UInt64.size then
    some (.int value h.2.2.2)
  else (real? n.negative ⟨d.digits, d.exponent + exponent⟩).map .float

end Numeral

end DocQuery
