import DocQuery.Binary64.Decimal
import DocQuery.Proofs.Binary64.Rounding
import Mathlib.Tactic.Ring

/-!
# The shortest numeral reads back

A numeral with seventeen digits can be chosen so close to a number that it rounds to it, so the
search for the shortest such numeral succeeds, and its result rounds to the number. Trailing zeros
do not count: rounding depends on the ratio of a quotient only.
-/

namespace DocQuery

namespace Binary64

/-- The nearest quotient does not change when a fraction is expanded. -/
theorem nearestQuotient_mul_left {k : Nat} (hk : 0 < k) (num den : Nat) :
    nearestQuotient (k * num) (k * den) = nearestQuotient num den := by
  have hlt : ∀ a b : Nat, 2 * (k * a) < k * b ↔ 2 * a < b := fun a b => by
    rw [Nat.mul_left_comm, Nat.mul_lt_mul_left hk]
  have hgt : ∀ a b : Nat, k * b < 2 * (k * a) ↔ b < 2 * a := fun a b => by
    rw [Nat.mul_left_comm, Nat.mul_lt_mul_left hk]
  unfold nearestQuotient
  simp only [Nat.mul_div_mul_left num den hk, Nat.mul_mod_mul_left, hlt, hgt]

/-- The nearest rank does not change when a fraction is expanded. -/
theorem nearestRank_mul_left {k : Nat} (hk : 0 < k) (num den : Nat) :
    nearestRank (k * num) (k * den) = nearestRank num den := by
  have hshift : ∀ scale, (k * den) <<< scale = k * den <<< scale := fun scale => by
    rw [Nat.shiftLeft_eq, Nat.shiftLeft_eq, Nat.mul_assoc]
  unfold nearestRank
  simp only [Nat.mul_div_mul_left num den hk, hshift, nearestQuotient_mul_left hk]

/-- Quotients of the same value round to the same number. -/
theorem ofQuotient?_congr {num den num' den' : Nat} (negative : Bool) (hden : 0 < den)
    (hden' : 0 < den') (h : num * den' = num' * den) :
    ofQuotient? negative num den = ofQuotient? negative num' den' := by
  have hrank : nearestRank (num * one) den = nearestRank (num' * one) den' :=
    calc nearestRank (num * one) den
        = nearestRank (den' * (num * one)) (den' * den) := (nearestRank_mul_left hden' _ _).symm
      _ = nearestRank (den * (num' * one)) (den * den') := by
        rw [Nat.mul_comm den', Nat.mul_right_comm, h, Nat.mul_comm den' den, Nat.mul_right_comm,
          Nat.mul_comm _ den]
      _ = nearestRank (num' * one) den' := nearestRank_mul_left hden _ _
  simp only [ofQuotient?, ofUnits?, hrank]

/-- Zero rounds to the rank zero. -/
theorem nearestRank_zero (den : Nat) : nearestRank 0 den = 0 := by
  simp [nearestRank, nearestQuotient]

/-- A number is what a fraction with its rank and its sign rounds to. -/
theorem ofUnits?_of_nearestRank {x : Binary64} {num den : Nat} (h : nearestRank num den = x.rank) :
    ofUnits? x.negative num den = some x := by
  have hlt : nearestRank num den < overflow := h ▸ x.rank_lt
  rw [ofUnits?, dif_pos hlt]
  exact congrArg some (by cases x; cases h; rfl)

end Binary64

namespace Decimal

/-- A numeral with a natural exponent stands for a whole number. -/
theorem quotient_natCast (digits k : Nat) :
    (⟨digits, k⟩ : Decimal).quotient = (digits * 10 ^ k, 1) := by
  rw [quotient, if_pos (Int.natCast_nonneg k), Int.toNat_natCast, Nat.pow_eq]

/-- A numeral with a negative exponent stands for a quotient by a power of ten. -/
theorem quotient_neg_natCast (digits k : Nat) :
    (⟨digits, -k⟩ : Decimal).quotient = (digits, 10 ^ k) := by
  rcases Nat.eq_zero_or_pos k with rfl | hk
  · exact (quotient_natCast digits 0).trans (by rw [Nat.pow_zero, Nat.mul_one])
  · have hneg : ¬0 ≤ (-k : Int) := by omega
    rw [quotient, if_neg hneg, Int.neg_neg, Int.toNat_natCast, Nat.pow_eq]

/-- A numeral with the digits multiplied by ten and the exponent lowered by one reads the same. -/
theorem nearest?_shift (digits : Nat) (exponent : Int) (negative : Bool) :
    (⟨digits * 10, exponent - 1⟩ : Decimal).nearest? negative =
      (⟨digits, exponent⟩ : Decimal).nearest? negative := by
  unfold nearest?
  obtain ⟨k, rfl⟩ | ⟨k, rfl⟩ : (∃ k : Nat, exponent = k + 1) ∨ ∃ k : Nat, exponent = -k := by
    by_cases h : 0 < exponent
    · exact .inl ⟨(exponent - 1).toNat, by omega⟩
    · exact .inr ⟨(-exponent).toNat, by omega⟩
  · rw [Int.add_sub_cancel, quotient_natCast, ← Int.natCast_succ, quotient_natCast]
    exact Binary64.ofQuotient?_congr _ Nat.one_pos Nat.one_pos (by rw [Nat.pow_succ']; ring)
  · rw [show (-k - 1 : Int) = -(k + 1 : Nat) by omega, quotient_neg_natCast, quotient_neg_natCast]
    exact Binary64.ofQuotient?_congr _ (Nat.pow_pos (by decide)) (Nat.pow_pos (by decide))
      (by rw [Nat.pow_succ']; ring)

/-- Dropping zeros at the end of the digits does not change the nearest number. -/
theorem nearest?_trim (fuel : Nat) (d : Decimal) (negative : Bool) :
    (d.trim fuel).nearest? negative = d.nearest? negative := by
  induction fuel generalizing d with
  | zero => rfl
  | succ fuel ih =>
    unfold trim
    split
    · next h =>
      rw [ih, ← nearest?_shift, Nat.div_mul_cancel (Nat.dvd_of_mod_eq_zero h.2), Int.add_sub_cancel]
    · rfl

end Decimal

namespace Binary64

/-- A number other than zero has a positive magnitude. -/
theorem magnitude_pos {x : Binary64} (h : x.isZero = false) : 0 < x.magnitude := by
  refine Nat.pos_of_ne_zero fun hzero => ?_
  have hrank := rank_eq_zero_of_magnitudeAt hzero
  rw [isZero, hrank] at h
  cases h

/-- The search for the shift of the leading digit ends with one, if the fuel suffices. -/
theorem one_le_leastShift (fuel tried n : Nat) (h : one ≤ n * 10 ^ fuel) :
    ∃ shift, leastShift fuel tried n = tried + shift ∧ one ≤ n * 10 ^ shift := by
  induction fuel generalizing tried n with
  | zero => exact ⟨0, rfl, h⟩
  | succ fuel ih =>
    unfold leastShift
    split
    · next hn => exact ⟨0, rfl, by rwa [Nat.pow_zero, Nat.mul_one]⟩
    · obtain ⟨shift, hshift, hone⟩ := ih (tried + 1) (n * 10)
        (by rwa [Nat.mul_assoc, ← Nat.pow_succ'])
      exact ⟨shift + 1, by rw [hshift]; omega, by rwa [Nat.pow_succ', ← Nat.mul_assoc]⟩

/-- The smallest magnitude needs at most 330 shifts. -/
theorem one_le_mul_pow {magnitude fuel n : Nat} (hpos : 0 < magnitude) (hfuel : fuel = n * 6)
    (hn : 55 ≤ n) : one ≤ magnitude * 10 ^ fuel := by
  -- The two powers are compared through their sixth roots, which are short numerals.
  have hbase : 2 ^ 179 ≤ 10 ^ n :=
    Nat.le_trans (by decide : 2 ^ 179 ≤ 10 ^ 55) (Nat.pow_le_pow_right (by decide) hn)
  calc one = (2 ^ 179) ^ 6 := by decide +kernel
    _ ≤ (10 ^ n) ^ 6 := Nat.pow_le_pow_left hbase 6
    _ = 10 ^ fuel := by rw [hfuel, Nat.pow_mul]
    _ ≤ magnitude * 10 ^ fuel := Nat.le_mul_of_pos_left _ hpos

/-- A positive number is at least the power of ten at its leading digit. -/
theorem pow_le_of_length_toDigits {n : Nat} (hpos : 0 < n) :
    10 ^ ((Nat.toDigits 10 n).length - 1) ≤ n := by
  by_contra hlt
  rcases Nat.eq_zero_or_pos ((Nat.toDigits 10 n).length - 1) with h0 | hlen
  · rw [h0, Nat.pow_zero] at hlt
    omega
  · have := (Nat.length_toDigits_le_iff (by decide) hlen).mpr (Nat.lt_of_not_le hlt)
    omega

/-- A positive magnitude is at least the power of ten at its leading digit. -/
theorem le_of_leadingExponent {magnitude : Nat} (hpos : 0 < magnitude) :
    (∃ k : Nat, leadingExponent magnitude = k ∧ one * 10 ^ k ≤ magnitude) ∨
      ∃ k : Nat, leadingExponent magnitude = -k ∧ one ≤ magnitude * 10 ^ k := by
  unfold leadingExponent
  split
  · next h =>
    have hdigits : 0 < (Nat.toDigits 10 (magnitude / one)).length := Nat.length_toDigits_pos
    refine .inl ⟨(Nat.toDigits 10 (magnitude / one)).length - 1, by omega, ?_⟩
    rw [Nat.mul_comm, ← Nat.le_div_iff_mul_le one_pos]
    exact pow_le_of_length_toDigits (Nat.div_pos h one_pos)
  · obtain ⟨shift, hshift, hone⟩ := one_le_leastShift 330 0 magnitude
      (one_le_mul_pow hpos rfl (Nat.le_refl 55))
    exact .inr ⟨shift, by rw [hshift, Nat.zero_add], hone⟩

private theorem inDigits_natCast (magnitude k : Nat) :
    inDigits magnitude k = (magnitude, one * 10 ^ k) := by
  rw [inDigits, if_pos (Int.natCast_nonneg k), Int.toNat_natCast, Nat.pow_eq]

private theorem inDigits_neg_natCast (magnitude k : Nat) :
    inDigits magnitude (-k) = (magnitude * 10 ^ k, one) := by
  rcases Nat.eq_zero_or_pos k with rfl | hk
  · exact (inDigits_natCast magnitude 0).trans (by simp)
  · have hneg : ¬0 ≤ (-k : Int) := by omega
    rw [inDigits, if_neg hneg, Int.neg_neg, Int.toNat_natCast, Nat.pow_eq]

/-- The denominator of a magnitude in units of a digit is positive. -/
theorem inDigits_den_pos (magnitude : Nat) (exponent : Int) :
    0 < (inDigits magnitude exponent).2 := by
  obtain ⟨k, rfl | rfl⟩ := Int.eq_nat_or_neg exponent
  · rw [inDigits_natCast]
    exact Nat.mul_pos one_pos (Nat.pow_pos (by decide))
  · rw [inDigits_neg_natCast]
    exact one_pos

/-- A numeral of seventeen digits is large in units of its last digit. -/
theorem le_inDigits {magnitude : Nat} (hpos : 0 < magnitude) :
    10 ^ 16 * (inDigits magnitude (leadingExponent magnitude - 16)).2 ≤
      (inDigits magnitude (leadingExponent magnitude - 16)).1 := by
  obtain ⟨k, hk, hone⟩ | ⟨k, hk, hone⟩ := le_of_leadingExponent hpos
  · rw [hk]
    by_cases hlarge : 16 ≤ k
    · obtain ⟨j, rfl⟩ := Nat.exists_eq_add_of_le hlarge
      rw [show ((16 + j : Nat) : Int) - 16 = (j : Nat) by omega, inDigits_natCast]
      calc 10 ^ 16 * (one * 10 ^ j) = one * 10 ^ (16 + j) := by rw [Nat.pow_add]; ring
        _ ≤ magnitude := hone
    · obtain ⟨j, hj⟩ := Nat.exists_eq_add_of_le (Nat.le_of_not_le hlarge)
      rw [show (k : Int) - 16 = -(j : Nat) by omega, inDigits_neg_natCast]
      calc 10 ^ 16 * one = one * 10 ^ k * 10 ^ j := by rw [hj, Nat.pow_add]; ring
        _ ≤ magnitude * 10 ^ j := Nat.mul_le_mul_right _ hone
  · rw [hk, show (-k - 16 : Int) = -(k + 16 : Nat) by omega, inDigits_neg_natCast]
    calc 10 ^ 16 * one ≤ 10 ^ 16 * (magnitude * 10 ^ k) := Nat.mul_le_mul_left _ hone
      _ = magnitude * 10 ^ (k + 16) := by rw [Nat.pow_add]; ring

/-- A numeral whose value is close to a number reads as that number. -/
theorem nearest?_of_close {x : Binary64} {digits : Nat} {exponent : Int} {num den : Nat}
    (hunits : inDigits x.magnitude exponent = (num, den)) (h : Close num (digits * den)) :
    (⟨digits, exponent⟩ : Decimal).nearest? x.negative = some x := by
  apply ofUnits?_of_nearestRank
  obtain ⟨k, rfl | rfl⟩ := Int.eq_nat_or_neg exponent
  · rw [inDigits_natCast] at hunits
    cases hunits
    rw [Decimal.quotient_natCast]
    have hscale : digits * (one * 10 ^ k) = digits * 10 ^ k * one := by ring
    rw [hscale] at h
    exact nearestRank_of_close Nat.one_pos (by rwa [Nat.mul_one])
  · rw [inDigits_neg_natCast] at hunits
    cases hunits
    rw [Decimal.quotient_neg_natCast]
    exact nearestRank_of_close (Nat.pow_pos (by decide)) h

/-- One of the two neighbours of a large quotient is close to it. -/
theorem close_div_or_succ {num den : Nat} (h : 10 ^ 16 * den ≤ num) (hden : 0 < den) :
    ∃ digits, (digits = num / den ∨ digits = num / den + 1) ∧ Close num (digits * den) := by
  have hdiv : num / den * den + num % den = num := Nat.div_add_mod' num den
  have hmod : num % den < den := Nat.mod_lt num hden
  unfold Close
  rw [hidden_eq]
  by_cases hhalf : 2 * (num % den) ≤ den
  · exact ⟨num / den, .inl rfl, by omega, by omega⟩
  · refine ⟨num / den + 1, .inr rfl, ?_, ?_⟩ <;> rw [Nat.add_mul] <;> omega

section Passing

variable {passes : Decimal → Bool} {num den : Nat} {exponent : Int}

/-- What is chosen of the two neighbours passes the test. -/
theorem passes_of_nearestPassing {d : Decimal}
    (h : nearestPassing passes num den exponent = some d) : passes d = true := by
  unfold nearestPassing at h
  dsimp only at h
  split at h
  case h_1 hlow hhigh =>
    cases h
    split
    · exact hlow
    · exact hhigh
  case h_2 hlow _ => cases h; exact hlow
  case h_3 _ hhigh => cases h; exact hhigh
  case h_4 => cases h

/-- One neighbour that passes the test is enough. -/
theorem isSome_nearestPassing {digits : Nat} (hdigits : digits = num / den ∨ digits = num / den + 1)
    (h : passes ⟨digits, exponent⟩ = true) :
    (nearestPassing passes num den exponent).isSome = true := by
  unfold nearestPassing
  dsimp only
  split
  case h_4 hlow hhigh =>
    rcases hdigits with rfl | rfl
    · exact absurd (hlow.symm.trans h) Bool.false_ne_true
    · exact absurd (hhigh.symm.trans h) Bool.false_ne_true
  all_goals rfl

end Passing

/-- Seventeen digits read back. -/
theorem isSome_readsBackWith {x : Binary64} (h : x.isZero = false) :
    (x.readsBackWith 17).isSome = true := by
  obtain ⟨digits, hdigits, hclose⟩ :=
    close_div_or_succ (le_inDigits (magnitude_pos h)) (inDigits_den_pos _ _)
  have hexponent : leadingExponent x.magnitude + 1 - (17 : Nat) =
      leadingExponent x.magnitude - 16 := by omega
  rw [readsBackWith, hexponent]
  have hreads := nearest?_of_close (Prod.eta _).symm hclose
  exact isSome_nearestPassing hdigits (beq_iff_eq.mpr hreads)

/-- The shortest numeral of a number reads as that number. -/
theorem nearest?_shortest (x : Binary64) : x.shortest.nearest? x.negative = some x := by
  unfold shortest
  split
  · next h =>
    have hrank : x.rank = 0 := by simpa [isZero] using h
    rw [Decimal.nearest?, ofQuotient?]
    refine ofUnits?_of_nearestRank ?_
    rw [show (⟨0, 0⟩ : Decimal).quotient = (0, 1) from rfl, Nat.zero_mul, nearestRank_zero, hrank]
  · next h =>
    rw [Decimal.nearest?_trim]
    have hsome : ((List.range' 1 17).findSome? x.readsBackWith).isSome = true :=
      List.findSome?_isSome_iff.mpr
        ⟨17, by decide, isSome_readsBackWith (Bool.eq_false_iff.mpr h)⟩
    obtain ⟨d, hd⟩ := Option.isSome_iff_exists.mp hsome
    obtain ⟨count, -, hcount⟩ := List.exists_of_findSome?_eq_some hd
    rw [readsBackWith] at hcount
    rw [hd]
    exact eq_of_beq (passes_of_nearestPassing hcount)

end Binary64

end DocQuery
