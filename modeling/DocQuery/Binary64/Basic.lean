/-!
# Finite binary64 numbers

A finite binary64 number is a sign and the rank of its magnitude in the increasing list of
non-negative finite magnitudes. Every magnitude is a whole number of units of `2 ^ -1074`, so
values are compared, rounded and divided in exact integer arithmetic. The rank of a magnitude
with scale `k` and significand `m` is `k * 2 ^ 52 + m`: a significand that rounds up to `2 ^ 53`
lands on the next scale by itself.
-/

namespace DocQuery

/-- The number of units of `2 ^ -1074` in the number one. -/
def Binary64.one : Nat := 1 <<< 1074

/-- Significands lie below `2 * 2 ^ 52`. -/
def Binary64.hidden : Nat := 1 <<< 52

/-- Ranks from here on stand for magnitudes too large to be finite. -/
def Binary64.overflow : Nat := 2047 * hidden

/-- A finite binary64 number. -/
structure Binary64 where
  /-- Whether the sign bit is set; zero has both signs. -/
  negative : Bool
  /-- Position of the magnitude among the non-negative finite magnitudes. -/
  rank : Nat
  /-- The magnitude is finite. -/
  rank_lt : rank < Binary64.overflow
  deriving DecidableEq, Repr

namespace Binary64

/-- The power of two by which the significand of the magnitude at a rank is multiplied. -/
def scaleAt (rank : Nat) : Nat := rank / hidden - 1

/-- The magnitude at a rank, in units of `2 ^ -1074`. -/
def magnitudeAt (rank : Nat) : Nat :=
  (rank - scaleAt rank * hidden) <<< scaleAt rank

/-- The magnitude of a number, in units of `2 ^ -1074`. -/
def magnitude (x : Binary64) : Nat := magnitudeAt x.rank

/-- The exact value of a number, in units of `2 ^ -1074`. -/
def units (x : Binary64) : Int :=
  if x.negative then -(x.magnitude : Int) else x.magnitude

/-- Positive zero. -/
def zero : Binary64 := ⟨false, 0, by decide⟩

/-- The number with the opposite sign. -/
def neg (x : Binary64) : Binary64 := { x with negative := !x.negative }

/-- Whether a number is zero, of either sign. -/
def isZero (x : Binary64) : Bool := x.rank == 0

/-- Numerical order; the two zeros are equal. -/
def cmp (x y : Binary64) : Ordering := compare x.units y.units

/-- The integer nearest to `num / den`, a half going to the even neighbour. -/
def nearestQuotient (num den : Nat) : Nat :=
  let q := num / den
  let r := num % den
  if 2 * r < den then q
  else if den < 2 * r then q + 1
  else q + q % 2

/-- The rank nearest to `num / den` units, a half going to the even significand. -/
def nearestRank (num den : Nat) : Nat :=
  let scale := (num / den).log2 - 52
  scale * hidden + nearestQuotient num (den <<< scale)

/-- The number with the given sign whose magnitude is nearest to `num / den` units, if finite. -/
def ofUnits? (negative : Bool) (num den : Nat) : Option Binary64 :=
  if h : nearestRank num den < overflow then some ⟨negative, nearestRank num den, h⟩ else none

/-- The number with the given sign whose magnitude is nearest to `num / den`, if finite. -/
def ofQuotient? (negative : Bool) (num den : Nat) : Option Binary64 :=
  ofUnits? negative (num * one) den

/-- The number nearest to an integer, or zero for integers too large to round to a finite one. -/
def ofInt (n : Int) : Binary64 :=
  (ofQuotient? (decide (n < 0)) n.natAbs 1).getD zero

/-- The rounded product, if finite. -/
def mul? (x y : Binary64) : Option Binary64 :=
  ofUnits? (x.negative != y.negative) (x.magnitude * y.magnitude) one

/-- The rounded quotient, if finite. -/
def div? (x y : Binary64) : Option Binary64 :=
  ofQuotient? (x.negative != y.negative) x.magnitude y.magnitude

/-- The integer part, rounding toward zero. -/
def trunc (x : Binary64) : Int :=
  if x.negative then -((x.magnitude / one : Nat) : Int) else (x.magnitude / one : Nat)

/-- Whether the value is an integer. -/
def isInteger (x : Binary64) : Bool := x.magnitude % one == 0

/-- The value as an integer, when it is one. -/
def toInt? (x : Binary64) : Option Int :=
  if x.isInteger then some x.trunc else none

/-- A number is its value up to the sign of zero. -/
theorem cmp_eq_eq_iff (x y : Binary64) : x.cmp y = .eq ↔ x.units = y.units := by
  simp [cmp]

end Binary64

end DocQuery
