import DocQuery.Proofs.Binary64.Integers
import DocQuery.Proofs.Binary64.Shortest
import Mathlib.Data.Nat.Log

/-!
# Rounding keeps the order

Rounding to the nearest number never exchanges two values. At one scale it is rounding to the
nearest integer, which is monotone, and the significands of a greater scale start where those of a
smaller one end. A value that can be represented rounds to itself, so no other value is rounded
across it.
-/

namespace DocQuery.Binary64

/-- A greater numerator has no smaller nearest quotient. -/
theorem nearestQuotient_mono {num num' : Nat} (h : num ≤ num') (den : Nat) :
    nearestQuotient num den ≤ nearestQuotient num' den := by
  rcases Nat.eq_or_lt_of_le h with rfl | hlt
  · exact Nat.le_refl _
  · have hnum := Nat.div_add_mod num den
    have hnum' := Nat.div_add_mod num' den
    have hdiv : num / den ≤ num' / den := Nat.div_le_div_right h
    rcases nearestQuotient_cases num den with ⟨hq, hr⟩ | ⟨hq, hr⟩ <;>
      rcases nearestQuotient_cases num' den with ⟨hq', hr'⟩ | ⟨hq', hr'⟩
    · omega
    · omega
    · -- Within one unit, what rounds down is not above what rounds up.
      have hne : num / den ≠ num' / den := by
        intro hsame
        rw [hsame] at hnum
        omega
      omega
    · omega

/-- A greater quotient does not round to a smaller rank. -/
theorem nearestRank_mono {num num' : Nat} (h : num ≤ num') (den : Nat) :
    nearestRank num den ≤ nearestRank num' den := by
  obtain ⟨s, hs⟩ : ∃ s, (num / den).log2 - 52 = s := ⟨_, rfl⟩
  obtain ⟨t, ht⟩ : ∃ t, (num' / den).log2 - 52 = t := ⟨_, rfl⟩
  obtain ⟨hhigh, -⟩ := significand_bounds hs
  obtain ⟨-, hlow⟩ := significand_bounds ht
  have hst : s ≤ t := by
    have hlog : (num / den).log2 ≤ (num' / den).log2 := by
      rw [Nat.log2_eq_log_two, Nat.log2_eq_log_two]
      exact Nat.log_mono_right (Nat.div_le_div_right h)
    omega
  rw [nearestRank, nearestRank, hs, ht]
  rcases Nat.eq_or_lt_of_le hst with rfl | hlt
  · exact Nat.add_le_add_left (nearestQuotient_mono h _) _
  · calc s * hidden + nearestQuotient num (den <<< s) ≤ (s + 1) * hidden + hidden := by
          rw [Nat.add_mul]
          omega
      _ ≤ t * hidden + nearestQuotient num' (den <<< t) :=
          Nat.add_le_add (Nat.mul_le_mul_right hidden hlt) (hlow (by omega))

/-- A magnitude rounds to its rank. -/
theorem nearestRank_magnitudeAt (rank : Nat) : nearestRank (magnitudeAt rank) 1 = rank := by
  rcases Nat.eq_zero_or_pos (magnitudeAt rank) with hzero | hpos
  · rw [hzero, nearestRank_zero]
    exact (rank_eq_zero_of_magnitudeAt hzero).symm
  · refine nearestRank_of_close Nat.one_pos ⟨?_, ?_⟩ <;>
      rw [Nat.mul_one] <;> exact Nat.lt_add_of_pos_right hpos

/-- A greater rank has no smaller magnitude. -/
theorem magnitudeAt_mono {rank rank' : Nat} (h : rank ≤ rank') :
    magnitudeAt rank ≤ magnitudeAt rank' := by
  by_contra hlt
  have hle := nearestRank_mono (Nat.le_of_not_le hlt) 1
  rw [nearestRank_magnitudeAt, nearestRank_magnitudeAt] at hle
  exact hlt (Nat.le_antisymm h hle ▸ Nat.le_refl _)

/-- The value that a value rounds to, both in units of `2 ^ -1074`; it need not be finite. -/
def rounded (units : Int) : Int :=
  if units < 0 then -(magnitudeAt (nearestRank units.natAbs 1) : Int)
  else magnitudeAt (nearestRank units.natAbs 1)

/-- Rounding keeps the order of values. -/
theorem rounded_mono {u v : Int} (h : u ≤ v) : rounded u ≤ rounded v := by
  have hmono {m n : Nat} (hle : m ≤ n) :
      magnitudeAt (nearestRank m 1) ≤ magnitudeAt (nearestRank n 1) :=
    magnitudeAt_mono (nearestRank_mono hle 1)
  unfold rounded
  by_cases hu : u < 0
  · rw [if_pos hu]
    by_cases hv : v < 0
    · have hle := hmono (show v.natAbs ≤ u.natAbs by omega)
      rw [if_pos hv]
      omega
    · rw [if_neg hv]
      omega
  · have hle := hmono (show u.natAbs ≤ v.natAbs by omega)
    rw [if_neg hu, if_neg (by omega)]
    omega

/-- A value whose magnitude can be represented is not changed. -/
theorem rounded_of_magnitude {u : Int} {rank : Nat} (h : magnitudeAt rank = u.natAbs) :
    rounded u = u := by
  rw [rounded, ← h, nearestRank_magnitudeAt, h]
  split <;> omega

/-- The value of a number rounds to itself. -/
theorem rounded_units (x : Binary64) : rounded x.units = x.units :=
  rounded_of_magnitude (natAbs_units x).symm

/-- A significand is shifted until its leading bit is the hidden one. -/
theorem exists_shift {n : Nat} (hpos : 0 < n) (h : n ≤ 2 * hidden) :
    ∃ s, s ≤ 52 ∧ hidden ≤ n * 2 ^ s ∧ n * 2 ^ s ≤ 2 * hidden := by
  have hlow := Nat.log2_self_le hpos.ne'
  have hhigh := Nat.lt_log2_self (n := n)
  by_cases hlog : n.log2 ≤ 52
  · have hsum : n.log2 + (52 - n.log2) = 52 := by omega
    refine ⟨52 - n.log2, by omega, ?_, ?_⟩
    · calc hidden = 2 ^ n.log2 * 2 ^ (52 - n.log2) := by rw [← Nat.pow_add, hsum]; rfl
        _ ≤ n * 2 ^ (52 - n.log2) := Nat.mul_le_mul_right _ hlow
    · calc n * 2 ^ (52 - n.log2) ≤ 2 ^ (n.log2 + 1) * 2 ^ (52 - n.log2) :=
            Nat.mul_le_mul_right _ hhigh.le
        _ = 2 * hidden := by rw [← Nat.pow_add, Nat.add_right_comm, hsum]; rfl
  · have hle : 2 ^ 53 ≤ n := (Nat.pow_le_pow_right (by decide) (by omega)).trans hlow
    refine ⟨0, by decide, ?_, ?_⟩
    · rw [hidden_eq]
      omega
    · omega

/-- An integer of at most 53 bits is a magnitude, and so is the next integer. -/
theorem exists_magnitudeAt {n : Nat} (h : n ≤ 2 * hidden) : ∃ rank, magnitudeAt rank = n * one := by
  rcases Nat.eq_zero_or_pos n with rfl | hpos
  · exact ⟨0, (Nat.zero_mul one).symm⟩
  · obtain ⟨s, hs, hlow, hhigh⟩ := exists_shift hpos h
    obtain ⟨t, ht⟩ : ∃ t, 1074 = s + t := ⟨1074 - s, by omega⟩
    have hone : one = 2 ^ s * 2 ^ t := by rw [one, ht, Nat.shiftLeft_eq, Nat.one_mul, Nat.pow_add]
    refine ⟨t * hidden + n * 2 ^ s, ?_⟩
    rw [magnitudeAt_add hlow hhigh, hone, Nat.shiftLeft_eq, Nat.one_mul, Nat.mul_assoc]

/-- So rounding does not change these integers. -/
theorem rounded_of_natAbs_le {n : Int} (h : n.natAbs ≤ 2 * hidden) :
    rounded (n * one) = n * one := by
  obtain ⟨rank, hrank⟩ := exists_magnitudeAt h
  have hmagnitude : magnitudeAt rank = (n * one).natAbs := by
    rw [hrank, Int.natAbs_mul, Int.natAbs_natCast]
  exact rounded_of_magnitude hmagnitude

/-- The number nearest to an integer has its rounded value, if that is finite. -/
theorem units_ofInt {n : Int} (h : n.natAbs < integerBound) :
    (ofInt n).units = rounded (n * one) := by
  have hfinite : nearestRank (n.natAbs * one) 1 < overflow :=
    calc nearestRank (n.natAbs * one) 1
        ≤ nearestRank (max n.natAbs hidden * one) 1 :=
          nearestRank_mono (Nat.mul_le_mul_right one (Nat.le_max_left _ _)) 1
      _ < overflow := (nearestRank_lt_overflow_iff (Nat.le_max_right _ _)).mpr
          (Nat.max_lt.mpr ⟨h, by decide +kernel⟩)
  have hround : ofInt n = ⟨decide (n < 0), nearestRank (n.natAbs * one) 1, hfinite⟩ := by
    rw [ofInt, ofQuotient?, ofUnits?, dif_pos hfinite, Option.getD_some]
  have hsign : n * (one : Int) < 0 ↔ n < 0 := by
    have hone : (0 : Int) < one := Int.natCast_pos.mpr one_pos
    constructor
    · intro hneg
      exact Int.lt_of_mul_lt_mul_right (by rwa [Int.zero_mul]) hone.le
    · intro hneg
      exact Int.mul_neg_of_neg_of_pos hneg hone
  rw [hround, units, rounded, Int.natAbs_mul, Int.natAbs_natCast]
  simp only [magnitude, hsign, decide_eq_true_eq]

end DocQuery.Binary64
