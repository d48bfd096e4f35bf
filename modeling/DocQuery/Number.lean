import DocQuery.Binary64.Decimal

/-!
# Numbers of a JSON text

A number is an integer that fits 64 bits, signed or unsigned, or a finite binary64 number. An
integer and a binary64 number of the same value are different numbers that compare equal.
-/

namespace DocQuery

/-- Signed 64-bit integers lie below this bound and not below its opposite. -/
def Number.signedBound : Int := 9223372036854775808

/-- A JSON number. -/
inductive Number where
  /-- An integer of the signed or unsigned 64-bit range. -/
  | int (value : Int) (bounds : -Number.signedBound ≤ value ∧ value < UInt64.size)
  /-- Any other number, rounded. -/
  | float (value : Binary64)
  deriving DecidableEq, Repr

namespace Number

/-- Whether an integer lies in the signed 64-bit range. -/
def isSigned (n : Int) : Bool := -signedBound ≤ n && n < signedBound

/-- An integer of the unsigned 64-bit range. -/
def ofUInt64 (n : UInt64) : Number :=
  .int n.toNat (by have := n.toNat_lt; simp only [signedBound, UInt64.size]; omega)

/-- An integer of the signed 64-bit range. -/
def ofInt64 (n : Int64) : Number :=
  .int n.toInt (by
    have := n.le_toInt
    have := n.toInt_lt
    simp only [signedBound, UInt64.size]
    omega)

/-- The nearest binary64 number. -/
def toBinary64 : Number → Binary64
  | .int n _ => Binary64.ofInt n
  | .float x => x

/-- The value as a signed 64-bit integer, for an integer that fits. -/
def signed? : Number → Option Int64
  | .int n _ => if n < signedBound then some (Int64.ofInt n) else none
  | .float _ => none

/-- The value as an unsigned 64-bit integer, for an integer that fits. -/
def unsigned? : Number → Option UInt64
  | .int n _ => if 0 ≤ n then some (UInt64.ofNat n.toNat) else none
  | .float _ => none

/-- Order by value, every number rounded to binary64 first. -/
def cmp (x y : Number) : Ordering := x.toBinary64.cmp y.toBinary64

/-- Sameness of numbers: integers by value, binary64 numbers by value too, so that the two zeros
are the same number; an integer is never a binary64 number. -/
def same : Number → Number → Bool
  | .int m _, .int n _ => m == n
  | .float x, .float y => x.units == y.units
  | _, _ => false

instance : BEq Number := ⟨same⟩

/-- The text of a number. -/
def text : Number → String
  | .int n _ => toString n
  | .float x => x.text

end Number

end DocQuery
