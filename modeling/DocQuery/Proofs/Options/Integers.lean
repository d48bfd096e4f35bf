import DocQuery.Options.Param
import DocQuery.Proofs.Number.IntegerLiteral

/-!
# Integers of option values

A number is read as a signed integer exactly if its value is one of the signed 64-bit range. As an
unsigned integer, an integer literal is read alike as a string and as the number it decodes to.
-/

namespace DocQuery

namespace Param

/-- The guard of binary64 numbers compares with the rounded ends of the range. The greatest integer
rounds up to the bound, which is refused, so exactly the integers of the signed range pass, and the
cast leaves them as they are. -/
theorem integral?_eq (x : Binary64) : integral? x = x.toInt?.filter Number.isSigned := by
  have hlow : (Binary64.ofInt (-Number.signedBound)).units =
      -Number.signedBound * Binary64.one := by
    decide +kernel
  have hhigh : (Binary64.ofInt (Number.signedBound - 1)).units =
      Number.signedBound * Binary64.one := by decide +kernel
  have hone : (0 : Int) < Binary64.one := Int.natCast_pos.mpr Binary64.one_pos
  unfold integral? Binary64.toInt?
  by_cases hinteger : x.isInteger = true
  · have hbelow : x.cmp (.ofInt (-Number.signedBound)) = .lt ↔ x.trunc < -Number.signedBound := by
      rw [Binary64.cmp, compare_lt_iff_lt, hlow, Binary64.units_of_isInteger hinteger]
      exact Int.mul_lt_mul_right hone
    have hwithin :
        x.cmp (.ofInt (Number.signedBound - 1)) = .lt ↔ x.trunc < Number.signedBound := by
      rw [Binary64.cmp, compare_lt_iff_lt, hhigh, Binary64.units_of_isInteger hinteger]
      exact Int.mul_lt_mul_right hone
    rw [if_pos hinteger, Option.filter_some]
    by_cases hsigned : Number.isSigned x.trunc = true
    · have hbounds := Number.isSigned_iff.mp hsigned
      rw [if_pos hsigned, if_neg, clampSigned_of_isSigned hsigned]
      simp [hinteger, hbelow, hwithin, hbounds]
    · have hbounds := mt Number.isSigned_iff.mpr hsigned
      rw [if_neg hsigned, if_pos]
      simp only [hinteger, Bool.not_true, Bool.false_or, Bool.or_eq_true, beq_iff_eq, bne_iff_ne,
        ne_eq, hbelow, hwithin]
      omega
  · simp [hinteger]

/-- A number is read as the integer of its value, if this lies in the signed range. -/
theorem signed?_num_eq_some_iff {x : Number} {k : Int} :
    signed? (.decoded (.num x)) = some k ↔ x.Denotes k ∧ Number.isSigned k = true := by
  cases x with
  | int m bounds =>
    rw [Number.denotes_int_iff, Number.isSigned_iff]
    change (if m < Number.signedBound then some m else none) = some k ↔ _
    rw [Option.ite_none_right_eq_some, Option.some_inj]
    constructor
    · rintro ⟨hlt, rfl⟩
      exact ⟨rfl, bounds.1, hlt⟩
    · rintro ⟨rfl, -, hlt⟩
      exact ⟨hlt, rfl⟩
  | float x =>
    change integral? x = some k ↔ _
    rw [integral?_eq, Option.filter_eq_some_iff, Number.denotes_float_iff]

/-- A number that stands for an integer is read as it, if it is in the signed range. -/
theorem signed?_num {n : Number} {k : Int} (h : n.Denotes k) :
    signed? (.decoded (.num n)) = if Number.isSigned k then some k else none := by
  split
  · next hsigned => exact signed?_num_eq_some_iff.mpr ⟨h, hsigned⟩
  · next hsigned =>
    rw [Option.eq_none_iff_forall_ne_some]
    intro m hm
    obtain ⟨hdenotes, hm⟩ := signed?_num_eq_some_iff.mp hm
    exact hsigned (h.unique hdenotes ▸ hm)

/-- A binary64 number beyond the signed range is not read as an unsigned integer. -/
theorem unsigned?_float_of_large {x : Binary64} (h : 2 ^ 63 * Binary64.one ≤ x.magnitude) :
    unsigned? (.decoded (.num (.float x))) = none := by
  change (integral? x).bind _ = none
  rw [integral?_eq]
  cases hx : x.toInt? with
  | none => rfl
  | some k =>
    have hmagnitude : x.magnitude = k.natAbs * Binary64.one := by
      rw [← Binary64.natAbs_units, Binary64.toInt?_eq_some_iff.mp hx, Int.natAbs_mul,
        Int.natAbs_natCast]
    rw [hmagnitude] at h
    have hlarge : 2 ^ 63 ≤ k.natAbs := Nat.le_of_mul_le_mul_right h Binary64.one_pos
    rw [Option.filter_some]
    split
    · next hsigned =>
      have hbounds := Number.isSigned_iff.mp hsigned
      rw [Number.signedBound] at hbounds
      exact if_neg (by omega)
    · rfl

end Param

/-- The value of a literal as an unsigned integer of 64 bits, if it is one. -/
def IntegerLiteral.unsigned? (l : IntegerLiteral) : Option Nat :=
  if 0 ≤ l.value ∧ l.value < 2 ^ 64 then some l.value.toNat else none

namespace Param

section Literals

variable {l : IntegerLiteral} (hzero : l.text ≠ "-0")

include hzero in
/-- An integer of 64 bits is kept by the decoder, so only its sign matters; a longer one becomes a
binary64 number, which is refused. -/
theorem unsigned?_num_literal {x : Number} (h : Json.decodeText l.text = .ok (.num x)) :
    unsigned? (.decoded (.num x)) = l.unsigned? := by
  have hsign : l.negative = true → l.magnitude ≠ 0 := fun hnegative hmagnitude =>
    hzero (l.text_eq_minusZero ⟨hnegative, hmagnitude⟩)
  by_cases bounds : -Number.signedBound ≤ l.value ∧ l.value < UInt64.size
  · have hint : x = .int l.value bounds := by
      rw [IntegerLiteral.decodeText_of_bounds hsign bounds] at h
      cases h
      rfl
    have hhigh : l.value < 2 ^ 64 := bounds.2
    rw [hint]
    change (if 0 ≤ l.value then some l.value.toNat else none) = _
    simp only [IntegerLiteral.unsigned?, hhigh, and_true]
  · obtain ⟨y, rfl, -, hlarge⟩ := IntegerLiteral.exists_float_of_large bounds h
    rw [unsigned?_float_of_large hlarge, IntegerLiteral.unsigned?, if_neg]
    rintro ⟨hlow, hhigh⟩
    exact bounds ⟨by rw [Number.signedBound]; omega, hhigh⟩

include hzero in
/-- A string with a minus is refused, and a string of digits is read exactly. -/
theorem unsigned?_str_literal : unsigned? (.decoded (.str l.text)) = l.unsigned? := by
  change Spelled.unsigned? l.text = _
  rw [Spelled.unsigned?, Spelled.sign_literal]
  dsimp only
  rw [Spelled.digits?_toDigits, IntegerLiteral.unsigned?, IntegerLiteral.value]
  cases hnegative : l.negative with
  | true =>
    have hmagnitude : l.magnitude ≠ 0 := fun h => hzero (l.text_eq_minusZero ⟨hnegative, h⟩)
    simp only [if_true]
    exact (if_neg (by omega)).symm
  | false =>
    have hfits : (0 ≤ (l.magnitude : Int) ∧ (l.magnitude : Int) < 2 ^ 64) ↔
        l.magnitude < UInt64.size := by
      simp only [UInt64.size]
      omega
    simp only [Bool.false_eq_true, if_false, Option.filter_some, decide_eq_true_eq, hfits,
      Int.toNat_natCast]

end Literals

end Param

end DocQuery
