import DocQuery.Proofs.Binary64.Integers
import DocQuery.Selector.Match

/-!
# Exact values of numbers

The exact value of a number, an integer of 64 bits or a binary64 number, is a whole number of the
units in which binary64 magnitudes are counted. A binary64 number is an integer if its value is a
multiple of the units in one; an integer beyond the signed range, of which most cannot be
represented, rounds to one that is beyond this range too.
-/

namespace DocQuery

namespace Binary64

private theorem natCast_one_ne_zero : (one : Int) ≠ 0 :=
  Int.natCast_ne_zero.mpr (Nat.ne_of_gt one_pos)

/-- Nothing is cut off an integer. -/
theorem units_of_isInteger {x : Binary64} (h : x.isInteger = true) : x.units = x.trunc * one := by
  have hmul : ((x.magnitude / one : Nat) : Int) * one = x.magnitude := by
    rw [← Int.natCast_mul, Nat.div_mul_cancel (Nat.dvd_of_mod_eq_zero (beq_iff_eq.mp h))]
  rw [units, trunc]
  split
  · rw [Int.neg_mul, hmul]
  · exact hmul.symm

/-- The integer that a binary64 number is, if it is one, has the same value. -/
theorem toInt?_eq_some_iff {x : Binary64} {n : Int} : x.toInt? = some n ↔ x.units = n * one := by
  rw [toInt?, Option.ite_none_right_eq_some]
  constructor
  · rintro ⟨hinteger, hsome⟩
    rw [units_of_isInteger hinteger, Option.some.inj hsome]
  · intro h
    have hmagnitude : x.magnitude = n.natAbs * one := by
      rw [← natAbs_units, h, Int.natAbs_mul, Int.natAbs_natCast]
    have hinteger : x.isInteger = true := by
      rw [isInteger, hmagnitude, Nat.mul_mod_left]
      rfl
    rw [units_of_isInteger hinteger] at h
    exact ⟨hinteger, congrArg some (Int.eq_of_mul_eq_mul_right natCast_one_ne_zero h)⟩

/-- The distance of the binary64 numbers from `2 ^ 63` to `2 ^ 64`. -/
theorem one_shiftLeft_eq : 1 <<< 1085 = 2048 * one := by decide +kernel

/-- Integers of 64 bits that need all of them round to multiples of `2 ^ 11`. -/
theorem nearestRank_of_large {n : Nat} (hlow : 2 ^ 63 ≤ n) (hhigh : n < 2 ^ 64) :
    ∃ m, hidden ≤ m ∧ m ≤ 2 * hidden ∧ nearestRank (n * one) 1 = 1085 * hidden + m := by
  have hlow' : hidden * 1 <<< 11 ≤ n := hlow
  have hhigh' : n < 2 * hidden * 1 <<< 11 := hhigh
  obtain ⟨hge, hle⟩ := nearestQuotient_of_scale hlow' hhigh'
  exact ⟨_, hge, hle, nearestRank_natCast hlow' hhigh'⟩

/-- An integer beyond the signed range rounds to an integer beyond it. -/
theorem toInt?_ofInt_of_large {n : Int} (hlow : Number.signedBound ≤ n)
    (hhigh : n < UInt64.size) :
    ∃ m, Number.signedBound ≤ m ∧ (ofInt n).toInt? = some m := by
  have hlow' : 9223372036854775808 ≤ n := hlow
  have hhigh' : n < 18446744073709551616 := hhigh
  have hsign : decide (n < 0) = false := decide_eq_false (by omega)
  obtain ⟨m, hge, hle, hrank⟩ := nearestRank_of_large (n := n.natAbs) (by omega) (by omega)
  have hlt : nearestRank (n.natAbs * one) 1 < overflow := by
    rw [hrank, overflow, hidden_eq] at *
    omega
  have hround : ofInt n = ⟨false, nearestRank (n.natAbs * one) 1, hlt⟩ := by
    rw [ofInt, ofQuotient?, ofUnits?, dif_pos hlt, Option.getD_some, hsign]
  have hunits : (ofInt n).units = ((m * 2048 : Nat) : Int) * one := by
    have hmagnitude : magnitudeAt (nearestRank (n.natAbs * one) 1) = m * 2048 * one := by
      rw [hrank, magnitudeAt_add hge hle, one_shiftLeft_eq, Nat.mul_assoc]
    rw [hround, ← Int.natCast_mul, ← hmagnitude]
    rfl
  refine ⟨(m * 2048 : Nat), ?_, toInt?_eq_some_iff.mpr hunits⟩
  rw [hidden_eq] at hge
  rw [Number.signedBound]
  omega

end Binary64

namespace Number

/-- The exact value of a number, in units of `2 ^ -1074`. -/
def units : Number → Int
  | .int n _ => n * Binary64.one
  | .float x => x.units

/-- The exact value of a number is an integer. -/
def Denotes (x : Number) (n : Int) : Prop := x.units = n * Binary64.one

/-- A number denotes one integer at most. -/
theorem Denotes.unique {x : Number} {n m : Int} (hn : x.Denotes n) (hm : x.Denotes m) : n = m :=
  Int.eq_of_mul_eq_mul_right Binary64.natCast_one_ne_zero (hn.symm.trans hm)

/-- An integer stands for itself only. -/
theorem denotes_int_iff {n m : Int} {bounds : -signedBound ≤ n ∧ n < UInt64.size} :
    (int n bounds).Denotes m ↔ n = m := by
  exact ⟨Int.eq_of_mul_eq_mul_right Binary64.natCast_one_ne_zero,
    congrArg (· * (Binary64.one : Int))⟩

/-- A binary64 number stands for the integer it is, if it is one. -/
theorem denotes_float_iff {x : Binary64} {n : Int} : (float x).Denotes n ↔ x.toInt? = some n :=
  Binary64.toInt?_eq_some_iff.symm

end Number

/-- The signed integers are those from the least to the greatest of 64 bits. -/
theorem Number.isSigned_iff {n : Int} :
    isSigned n = true ↔ -signedBound ≤ n ∧ n < signedBound := by
  rw [isSigned, Bool.and_eq_true, decide_eq_true_iff, decide_eq_true_iff]

/-- An integer of the signed range is its own nearest integer in the range. -/
theorem clampSigned_of_isSigned {n : Int} (h : Number.isSigned n = true) : clampSigned n = n := by
  rw [Number.isSigned_iff] at h
  rw [clampSigned]
  omega

/-- An integer beyond the signed range has the end of the range nearest to it. -/
theorem clampSigned_of_signedBound_le {n : Int} (h : Number.signedBound ≤ n) :
    clampSigned n = Number.signedBound - 1 := by
  simp only [clampSigned, Number.signedBound] at *
  omega

/-- An integer that is too small is clamped to the least signed one. -/
theorem clampSigned_of_le_neg_signedBound {n : Int} (h : n ≤ -Number.signedBound) :
    clampSigned n = -Number.signedBound := by
  simp only [clampSigned, Number.signedBound] at *
  omega

/-- The integer that remainders are taken of is the integer a number denotes, or the end of the
signed range nearest to it. -/
theorem Json.integral?_num_eq_some_iff {x : Number} {k : Int} :
    (num x).integral? = some k ↔ ∃ n, x.Denotes n ∧ clampSigned n = k := by
  cases x with
  | int n bounds =>
    simp only [Number.denotes_int_iff, exists_eq_left']
    by_cases hlt : n < Number.signedBound
    · have hsigned : Number.isSigned n = true := Number.isSigned_iff.mpr ⟨bounds.1, hlt⟩
      have hkept : (num (.int n bounds)).integral? = some n := by
        rw [integral?, Number.signed?, if_pos hlt]
        exact congrArg some (Int64.toInt_ofInt_of_le bounds.1 hlt)
      rw [hkept, clampSigned_of_isSigned hsigned, Option.some_inj]
    · have hge : Number.signedBound ≤ n := Int.not_lt.mp hlt
      obtain ⟨m, hm, hround⟩ := Binary64.toInt?_ofInt_of_large hge bounds.2
      have hend : (num (.int n bounds)).integral? = some (Number.signedBound - 1) := by
        rw [integral?, Number.signed?, if_neg hlt, Number.toBinary64, hround, Option.map_some,
          clampSigned_of_signedBound_le hm]
      rw [hend, clampSigned_of_signedBound_le hge, Option.some_inj]
  | float x =>
    simp only [Number.denotes_float_iff]
    exact Option.map_eq_some_iff

end DocQuery
