import DocQuery.Binary64.Basic
import Mathlib.Algebra.Order.Ring.Nat

/-!
# Rounding to the nearest number

A quotient that lies close to the magnitude at a rank, relative to that magnitude, rounds to the
rank. Half the distance between neighbouring magnitudes is more than a part in `2 ^ 54` of them, the
narrow side of a power of two included, so this is what "close" means.
-/

namespace DocQuery.Binary64

/-- The hidden bit has the weight `2 ^ 52`. -/
theorem hidden_eq : hidden = 4503599627370496 := by decide

/-- The hidden bit is positive. -/
theorem hidden_pos : 0 < hidden := by decide

/-- The magnitude of the number one is positive. -/
theorem one_pos : 0 < one := by decide

/-- A quotient less than a half away from an integer rounds to it. -/
theorem nearestQuotient_eq {num den m : Nat} (hlow : 2 * (m * den) < 2 * num + den)
    (hhigh : 2 * num < 2 * (m * den) + den) : nearestQuotient num den = m := by
  have hdiv : num / den * den + num % den = num := Nat.div_add_mod' num den
  have hmod : num % den < den := Nat.mod_lt num (by omega)
  have hle : num / den ≤ m := by
    by_contra hlt
    have := Nat.mul_le_mul_right den (show m + 1 ≤ num / den by omega)
    rw [Nat.add_mul] at this
    omega
  have hge : m ≤ num / den + 1 := by
    by_contra hlt
    have := Nat.mul_le_mul_right den (show num / den + 2 ≤ m by omega)
    rw [Nat.add_mul] at this
    omega
  unfold nearestQuotient
  dsimp only
  obtain hm | hm : m = num / den ∨ m = num / den + 1 := by omega
  · rw [hm] at hhigh
    rw [if_pos (by omega), hm]
  · rw [hm, Nat.add_mul] at hlow
    rw [if_neg (by omega), if_pos (by omega), hm]

/-- A quotient rounds to its integer part or to the next integer, whichever is not farther. -/
theorem nearestQuotient_cases (num den : Nat) :
    nearestQuotient num den = num / den ∧ 2 * (num % den) ≤ den ∨
      nearestQuotient num den = num / den + 1 ∧ den ≤ 2 * (num % den) := by
  unfold nearestQuotient
  dsimp only
  split
  · omega
  · split <;> omega

/-- The nearest quotient is the quotient rounded down or up. -/
theorem nearestQuotient_bounds (num den : Nat) :
    num / den ≤ nearestQuotient num den ∧ nearestQuotient num den ≤ num / den + 1 := by
  rcases nearestQuotient_cases num den with ⟨hq, -⟩ | ⟨hq, -⟩ <;> omega

/-- Rounding at the scale that the integer part of a quotient has. -/
theorem nearestRank_eq {num den scale m : Nat} (hscale : (num / den).log2 - 52 = scale)
    (hlow : 2 * (m * (den <<< scale)) < 2 * num + den <<< scale)
    (hhigh : 2 * num < 2 * (m * (den <<< scale)) + den <<< scale) :
    nearestRank num den = scale * hidden + m := by
  unfold nearestRank
  rw [hscale]
  dsimp only
  rw [nearestQuotient_eq hlow hhigh]

/-- The scale of a quotient below the first power of two that needs another scale. -/
theorem scale_eq_zero {num den : Nat} (hden : 0 < den) (h : num < 2 * hidden * den) :
    (num / den).log2 - 52 = 0 := by
  have hlt : num / den < 2 ^ 53 := (Nat.div_lt_iff_lt_mul hden).mpr (by rw [hidden_eq] at h; omega)
  rcases Nat.eq_zero_or_pos (num / den) with h0 | hpos
  · rw [h0, Nat.log2_zero]
  · have := (Nat.log2_lt hpos.ne').mpr hlt
    omega

/-- The scale of a quotient between two powers of two. -/
theorem scale_eq {num den s : Nat} (hden : 0 < den)
    (hlow : hidden * (den <<< s) ≤ num) (hhigh : num < 2 * hidden * (den <<< s)) :
    (num / den).log2 - 52 = s := by
  rw [Nat.shiftLeft_eq] at hlow hhigh
  have hge : 2 ^ (52 + s) ≤ num / den := by
    rw [Nat.le_div_iff_mul_le hden, Nat.pow_add]
    calc 2 ^ 52 * 2 ^ s * den = hidden * (den * 2 ^ s) := by
          rw [hidden_eq, Nat.mul_assoc, Nat.mul_comm den]; rfl
      _ ≤ num := hlow
  have hlt : num / den < 2 ^ (53 + s) := by
    rw [Nat.div_lt_iff_lt_mul hden, Nat.pow_add]
    calc num < 2 * hidden * (den * 2 ^ s) := hhigh
      _ = 2 ^ 53 * 2 ^ s * den := by
          rw [hidden_eq, Nat.mul_assoc (2 ^ 53), Nat.mul_comm den]; rfl
  have hne : num / den ≠ 0 := (Nat.lt_of_lt_of_le (Nat.two_pow_pos _) hge).ne'
  have h1 := (Nat.le_log2 hne).mpr hge
  have h2 := (Nat.log2_lt hne).mpr hlt
  omega

/-- The significand at a rank. -/
def significandAt (rank : Nat) : Nat := rank - scaleAt rank * hidden

/-- A rank is made up of its scale and its significand. -/
theorem rank_eq (rank : Nat) : scaleAt rank * hidden + significandAt rank = rank := by
  unfold significandAt scaleAt
  have := Nat.div_mul_le_self rank hidden
  rw [Nat.sub_mul]
  omega

/-- A significand is less than twice the hidden bit. -/
theorem significandAt_lt (rank : Nat) : significandAt rank < 2 * hidden := by
  unfold significandAt scaleAt
  have hdiv := Nat.div_add_mod' rank hidden
  have hmod := Nat.mod_lt rank hidden_pos
  rw [Nat.sub_mul]
  omega

/-- Only the lowest scale has significands below the hidden bit. -/
theorem hidden_le_significandAt {rank : Nat} (h : scaleAt rank ≠ 0) :
    hidden ≤ significandAt rank := by
  unfold significandAt
  unfold scaleAt at *
  have hdiv := Nat.div_mul_le_self rank hidden
  have hsucc : rank / hidden - 1 + 1 = rank / hidden := by omega
  rw [← hsucc, Nat.add_mul] at hdiv
  omega

/-- A magnitude over a denominator is a significand in units of its scale. -/
theorem magnitudeAt_mul (rank den : Nat) :
    magnitudeAt rank * den = significandAt rank * (den <<< scaleAt rank) := by
  rw [magnitudeAt, Nat.shiftLeft_eq, Nat.shiftLeft_eq, Nat.mul_assoc, Nat.mul_comm (2 ^ _)]
  rfl

/-- Only the rank zero has the magnitude zero. -/
theorem rank_eq_zero_of_magnitudeAt {rank : Nat} (h : magnitudeAt rank = 0) : rank = 0 := by
  have hmul := magnitudeAt_mul rank 1
  rw [h, Nat.shiftLeft_eq, Nat.zero_mul, Nat.one_mul] at hmul
  have hpow := Nat.two_pow_pos (scaleAt rank)
  have hsignificand : significandAt rank = 0 :=
    (Nat.mul_eq_zero.mp hmul.symm).resolve_right hpow.ne'
  have hscale : scaleAt rank = 0 := by
    by_contra hne
    have hlow := hidden_le_significandAt hne
    rw [hsignificand] at hlow
    exact absurd hidden_pos hlow.not_gt
  have hrank := rank_eq rank
  rwa [hscale, hsignificand, Nat.zero_mul, Nat.add_zero, eq_comm] at hrank

/-- The units of a number are its magnitude up to the sign. -/
theorem natAbs_units (x : Binary64) : x.units.natAbs = x.magnitude := by
  rw [units]
  split
  · rw [Int.natAbs_neg, Int.natAbs_natCast]
  · rw [Int.natAbs_natCast]

/-- The magnitude of a significand and a scale. The largest significand, which only rounding gives,
is the smallest one at the next scale. -/
theorem magnitudeAt_add {scale m : Nat} (hlow : hidden ≤ m) (hhigh : m ≤ 2 * hidden) :
    magnitudeAt (scale * hidden + m) = m * (1 <<< scale) := by
  have hdiv : (scale * hidden + m) / hidden = scale + m / hidden := by
    rw [Nat.add_comm, Nat.add_mul_div_right _ _ hidden_pos, Nat.add_comm]
  rw [magnitudeAt, scaleAt, hdiv, Nat.shiftLeft_eq, Nat.shiftLeft_eq, Nat.one_mul]
  rcases Nat.lt_or_eq_of_le hhigh with hlt | rfl
  · have hquotient : m / hidden = 1 := by
      rw [Nat.div_eq_iff hidden_pos]
      omega
    rw [hquotient, Nat.add_sub_cancel, Nat.add_sub_cancel_left]
  · have hscale : scale + 2 * hidden / hidden - 1 = scale + 1 := by
      rw [Nat.mul_div_cancel _ hidden_pos, Nat.add_sub_assoc Nat.one_lt_two.le]
    have hsignificand : scale * hidden + 2 * hidden - (scale + 1) * hidden = hidden := by
      rw [Nat.add_mul]
      omega
    rw [hscale, hsignificand, Nat.pow_succ', Nat.mul_left_comm, Nat.mul_assoc]

/-- The significand that a quotient rounds to is at most the largest one, and not below the hidden
bit unless the quotient is. -/
theorem significand_bounds {num den scale : Nat} (hscale : (num / den).log2 - 52 = scale) :
    nearestQuotient num (den <<< scale) ≤ 2 * hidden ∧
      (52 ≤ (num / den).log2 → hidden ≤ nearestQuotient num (den <<< scale)) := by
  obtain ⟨hfloor, hceil⟩ := nearestQuotient_bounds num (den <<< scale)
  have hsplit : num / den <<< scale = num / den / 2 ^ scale := by
    rw [Nat.shiftLeft_eq, Nat.div_div_eq_div_mul]
  constructor
  · have hlt : num / den / 2 ^ scale < 2 * hidden := by
      rw [Nat.div_lt_iff_lt_mul (Nat.two_pow_pos scale)]
      calc num / den < 2 ^ ((num / den).log2 + 1) := Nat.lt_log2_self
        _ ≤ 2 ^ (53 + scale) := Nat.pow_le_pow_right (by decide) (by omega)
        _ = 2 * hidden * 2 ^ scale := Nat.pow_add 2 53 scale
    omega
  · intro hlog
    have hlead : (num / den).log2 = 52 + scale := by omega
    have hne : num / den ≠ 0 := by
      intro hzero
      rw [hzero, Nat.log2_zero] at hlog
      omega
    have hle : hidden ≤ num / den / 2 ^ scale := by
      rw [Nat.le_div_iff_mul_le (Nat.two_pow_pos scale)]
      calc
        hidden * 2 ^ scale = 2 ^ (num / den).log2 := by
          rw [hlead]
          exact (Nat.pow_add 2 52 scale).symm
        _ ≤ num / den := Nat.log2_self_le hne
    omega

/-- A quotient that is not below a power of two rounds to a magnitude that is not below it. -/
theorem le_magnitudeAt_nearestRank {num den s : Nat} (hden : 0 < den)
    (h : hidden * den <<< s ≤ num) : hidden * 1 <<< s ≤ magnitudeAt (nearestRank num den) := by
  obtain ⟨t, ht⟩ : ∃ t, (num / den).log2 - 52 = t := ⟨_, rfl⟩
  have hquotient : 2 ^ (52 + s) ≤ num / den := by
    rw [Nat.le_div_iff_mul_le hden, Nat.pow_add, Nat.mul_assoc, Nat.mul_comm (2 ^ s)]
    rwa [Nat.shiftLeft_eq] at h
  have hne : num / den ≠ 0 := (Nat.lt_of_lt_of_le (Nat.two_pow_pos _) hquotient).ne'
  have hlog : 52 + s ≤ (num / den).log2 := (Nat.le_log2 hne).mpr hquotient
  obtain ⟨hhigh, hlow⟩ := significand_bounds ht
  have hge := hlow (by omega)
  have hle : 1 <<< s ≤ 1 <<< t := by
    rw [Nat.shiftLeft_eq, Nat.shiftLeft_eq, Nat.one_mul, Nat.one_mul]
    exact Nat.pow_le_pow_right (by decide) (by omega)
  rw [nearestRank, ht, magnitudeAt_add hge hhigh]
  exact Nat.mul_le_mul hge hle

/-- Whether an approximation differs from a quantity by less than a part in `2 ^ 54` of it. -/
def Close (exact approx : Nat) : Prop :=
  4 * hidden * exact < 4 * hidden * approx + exact ∧
    4 * hidden * approx < 4 * hidden * exact + exact

/-- A significand is less than twice the hidden bit, so close means less than half a unit away. -/
theorem Close.lt_half {m unit num : Nat} (h : Close (m * unit) num) (hm : m < 2 * hidden)
    (hunit : 0 < unit) :
    2 * (m * unit) < 2 * num + unit ∧ 2 * num < 2 * (m * unit) + unit := by
  have hmul := Nat.mul_le_mul_right unit (show m + 1 ≤ 2 * hidden by omega)
  rw [Nat.add_mul] at hmul
  obtain ⟨hlow, hhigh⟩ := h
  rw [hidden_eq] at *
  exact ⟨by omega, by omega⟩

/-- A quotient close to a power of two, but below it, lies in the scale before, where the units are
half as large. -/
theorem nearestRank_of_close_below {num den t : Nat} (hden : 0 < den)
    (h : Close (hidden * (den <<< (t + 1))) num) (hlt : num < hidden * (den <<< (t + 1))) :
    nearestRank num den = (t + 1) * hidden + hidden := by
  obtain ⟨hlow, -⟩ := h
  rw [Nat.shiftLeft_succ] at hlow hlt
  generalize hhalf : den <<< t = half at hlow hlt
  rw [nearestRank_eq (m := 2 * hidden) (scale_eq (s := t) hden ?_ ?_) ?_ ?_]
  · rw [Nat.add_mul]
    omega
  all_goals rw [hhalf, hidden_eq] at *; omega

/-- A quotient close to the magnitude at a rank rounds to that rank. -/
theorem nearestRank_of_close {num den rank : Nat} (hden : 0 < den)
    (h : Close (magnitudeAt rank * den) num) : nearestRank num den = rank := by
  rw [magnitudeAt_mul] at h
  have hrank := rank_eq rank
  have hm := significandAt_lt rank
  have hnormal := @hidden_le_significandAt rank
  generalize significandAt rank = m at *
  generalize scaleAt rank = s at *
  have hunit : 0 < den <<< s := by
    rw [Nat.shiftLeft_eq]
    exact Nat.mul_pos hden (Nat.two_pow_pos s)
  obtain ⟨hlow, hhigh⟩ := h.lt_half hm hunit
  have hmul := Nat.mul_le_mul_right (den <<< s) (show m + 1 ≤ 2 * hidden by omega)
  rw [Nat.add_mul] at hmul
  have hlt : num < 2 * hidden * (den <<< s) := by omega
  rcases Nat.eq_zero_or_pos s with rfl | hs
  · rw [nearestRank_eq (scale_eq_zero hden hlt) hlow hhigh, hrank]
  by_cases hge : hidden * (den <<< s) ≤ num
  · rw [nearestRank_eq (scale_eq hden hge hlt) hlow hhigh, hrank]
  · -- Only the lowest magnitude of a scale is approached from outside of it.
    obtain ⟨t, rfl⟩ : ∃ t, s = t + 1 := ⟨s - 1, by omega⟩
    have hpower : m = hidden := by
      refine Nat.le_antisymm ?_ (hnormal (by omega))
      by_contra hgt
      have := Nat.mul_le_mul_right (den <<< (t + 1)) (show hidden + 1 ≤ m by omega)
      rw [Nat.add_mul] at this
      omega
    subst hpower
    rw [nearestRank_of_close_below hden h (by omega), hrank]

end DocQuery.Binary64
