import DocQuery.Proofs.Binary64.Rounding

/-!
# Rounding integers

An integer of more than 52 bits rounds at the scale of its leading bit to a magnitude of the same
length, or to the next power of two. So the integers that round to a finite number are those below
the middle between the largest finite number and the next power of two; there the significand of the
latter is the even one.
-/

namespace DocQuery.Binary64

/-- Integers of this magnitude and beyond round to no finite number: it lies in the middle between
the largest finite number and the next power of two. -/
def integerBound : Nat := 1 <<< 1024 - 1 <<< 970

/-- Half the distance of the largest finite numbers. -/
theorem integerBound_add : integerBound + 1 <<< 970 = 2 ^ 54 * 1 <<< 970 := by decide +kernel

/-- A quotient is rounded by its value alone. -/
theorem nearestQuotient_mul_right {k : Nat} (hk : 0 < k) (num den : Nat) :
    nearestQuotient (num * k) (den * k) = nearestQuotient num den := by
  have hless : 2 * (num % den * k) < den * k ↔ 2 * (num % den) < den := by
    rw [← Nat.mul_assoc]
    exact Nat.mul_lt_mul_right hk
  have hgreater : den * k < 2 * (num % den * k) ↔ den < 2 * (num % den) := by
    rw [← Nat.mul_assoc]
    exact Nat.mul_lt_mul_right hk
  unfold nearestQuotient
  simp only [Nat.mul_div_mul_right _ _ hk, Nat.mul_mod_mul_right, hless, hgreater]

/-- A quotient rounds to less than an even integer if it lies more than a half below it. -/
theorem nearestQuotient_lt_iff {num den m : Nat} (hden : 0 < den) (hm : m % 2 = 0) :
    nearestQuotient num den < m ↔ 2 * num + den < 2 * (m * den) := by
  have hdiv : num / den * den + num % den = num := Nat.div_add_mod' num den
  have hmod : num % den < den := Nat.mod_lt num hden
  obtain ⟨hge, hle⟩ := nearestQuotient_bounds num den
  rcases Nat.lt_trichotomy (num / den + 1) m with hlt | heq | hgt
  · have hmul := Nat.mul_le_mul_right den (show num / den + 2 ≤ m from hlt)
    rw [Nat.add_mul] at hmul
    exact iff_of_true (by omega) (by omega)
  · -- The integer part is odd, so an exact half rounds up.
    have hodd : num / den % 2 = 1 := by omega
    rw [← heq, Nat.add_mul]
    unfold nearestQuotient
    dsimp only
    split
    · omega
    · split <;> omega
  · have hmul := Nat.mul_le_mul_right den (show m ≤ num / den by omega)
    exact iff_of_false (by omega) (by omega)

/-- The unit at the scale of an integer, which is counted in the units of `2 ^ -1074`. -/
theorem shiftLeft_add_one (s : Nat) : 1 <<< (s + 1074) = 1 <<< s * one := by
  rw [one, Nat.shiftLeft_eq, Nat.shiftLeft_eq, Nat.shiftLeft_eq, Nat.pow_add]
  simp only [Nat.one_mul]

private theorem shiftLeft_pos (s : Nat) : 0 < 1 <<< s := by
  rw [Nat.shiftLeft_eq, Nat.one_mul]
  exact Nat.two_pow_pos s

private theorem shiftLeft_le {s t : Nat} (h : s ≤ t) : 1 <<< s ≤ 1 <<< t := by
  rw [Nat.shiftLeft_eq, Nat.shiftLeft_eq, Nat.one_mul, Nat.one_mul]
  exact Nat.pow_le_pow_right (by decide) h

section Scale

variable {n s : Nat}

/-- An integer of more than 52 bits has a leading bit. -/
theorem exists_scale (h : hidden ≤ n) : ∃ s, hidden * 1 <<< s ≤ n ∧ n < 2 * hidden * 1 <<< s := by
  have hpos : n ≠ 0 := (Nat.lt_of_lt_of_le hidden_pos h).ne'
  have hlog : 52 ≤ n.log2 := (Nat.le_log2 hpos).mpr h
  have hpow (k : Nat) : 2 ^ (52 + k) = hidden * 1 <<< k := by
    rw [Nat.pow_add, Nat.shiftLeft_eq, Nat.one_mul]
    rfl
  refine ⟨n.log2 - 52, ?_, ?_⟩
  · rw [← hpow, Nat.add_sub_of_le hlog]
    exact Nat.log2_self_le hpos
  · have hlt := Nat.lt_log2_self (n := n)
    rwa [Nat.pow_succ', ← Nat.add_sub_of_le hlog, hpow, ← Nat.mul_assoc] at hlt

/-- The significand of an integer is a full one. -/
theorem nearestQuotient_of_scale (hlow : hidden * 1 <<< s ≤ n) (hhigh : n < 2 * hidden * 1 <<< s) :
    hidden ≤ nearestQuotient n (1 <<< s) ∧ nearestQuotient n (1 <<< s) ≤ 2 * hidden := by
  obtain ⟨hge, hle⟩ := nearestQuotient_bounds n (1 <<< s)
  have hquotient := (Nat.le_div_iff_mul_le (shiftLeft_pos s)).mpr hlow
  have hquotient' := (Nat.div_lt_iff_lt_mul (shiftLeft_pos s)).mpr hhigh
  omega

/-- An integer with `53 + s` bits rounds at the scale `s`. -/
theorem nearestRank_natCast (hlow : hidden * 1 <<< s ≤ n) (hhigh : n < 2 * hidden * 1 <<< s) :
    nearestRank (n * one) 1 = (s + 1074) * hidden + nearestQuotient n (1 <<< s) := by
  have hscale : (n * one / 1).log2 - 52 = s + 1074 := by
    refine scale_eq Nat.one_pos ?_ ?_
    · rw [shiftLeft_add_one, ← Nat.mul_assoc]
      exact Nat.mul_le_mul_right one hlow
    · rw [shiftLeft_add_one, ← Nat.mul_assoc]
      exact Nat.mul_lt_mul_of_pos_right hhigh one_pos
  rw [nearestRank, hscale, shiftLeft_add_one, nearestQuotient_mul_right one_pos]

/-- An integer rounds to a finite number exactly if it lies below the bound. -/
theorem nearestRank_lt_overflow_iff (h : hidden ≤ n) :
    nearestRank (n * one) 1 < overflow ↔ n < integerBound := by
  obtain ⟨s, hlow, hhigh⟩ := exists_scale h
  obtain ⟨hge, hle⟩ := nearestQuotient_of_scale hlow hhigh
  have hbound := integerBound_add
  -- The scales below the largest one, this one, and those beyond it.
  have hsmall : s ≤ 970 → 1 <<< s ≤ 1 <<< 970 := shiftLeft_le
  have hlargest : s = 971 → 1 <<< s = 1 <<< 970 * 2 := by rintro rfl; rfl
  have hbeyond : 972 ≤ s → 1 <<< 970 * 2 * 2 ≤ 1 <<< s := shiftLeft_le
  have heven : nearestQuotient n (1 <<< s) < 2 * hidden ↔
      2 * n + 1 <<< s < 2 * (2 * hidden * 1 <<< s) :=
    nearestQuotient_lt_iff (shiftLeft_pos s) (by decide)
  rw [nearestRank_natCast hlow hhigh, overflow]
  generalize nearestQuotient n (1 <<< s) = q at *
  generalize 1 <<< s = scale at *
  generalize 1 <<< 970 = unit at *
  rw [hidden_eq] at *
  rcases Nat.lt_trichotomy s 971 with hlt | heq | hgt
  · exact iff_of_true (by omega) (by omega)
  · omega
  · exact iff_of_false (by omega) (by omega)

/-- Integers from the bound on do not round to a finite number. -/
theorem ofQuotient?_of_integerBound_le (h : integerBound ≤ n) (negative : Bool) :
    ofQuotient? negative n 1 = none := by
  have hhidden : hidden ≤ integerBound := by decide +kernel
  have hoverflow := mt (nearestRank_lt_overflow_iff (hhidden.trans h)).mp (Nat.not_lt.mpr h)
  rw [ofQuotient?, ofUnits?, dif_neg hoverflow]

/-- An integer below the bound rounds to a finite number, which is not below a power of two that the
integer is not below. -/
theorem exists_ofQuotient? {t : Nat} (hlow : hidden * 1 <<< t ≤ n) (h : n < integerBound)
    (negative : Bool) :
    ∃ x, ofQuotient? negative n 1 = some x ∧ x.negative = negative ∧
      hidden * 1 <<< t * one ≤ x.magnitude := by
  have hhidden : hidden ≤ n :=
    (Nat.le_mul_of_pos_right hidden (shiftLeft_pos t)).trans hlow
  have hfinite := (nearestRank_lt_overflow_iff hhidden).mpr h
  have hunits : hidden * 1 <<< (t + 1074) ≤ n * one := by
    rw [shiftLeft_add_one, ← Nat.mul_assoc]
    exact Nat.mul_le_mul_right one hlow
  refine ⟨⟨negative, nearestRank (n * one) 1, hfinite⟩, dif_pos hfinite, rfl, ?_⟩
  rw [Nat.mul_assoc, ← shiftLeft_add_one]
  exact le_magnitudeAt_nearestRank Nat.one_pos hunits

end Scale

end DocQuery.Binary64
