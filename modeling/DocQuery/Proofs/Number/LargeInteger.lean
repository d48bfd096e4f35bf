import DocQuery.Proofs.Binary64.Integers
import DocQuery.Proofs.Number.Numeral

/-!
# Integers beyond 64 bits

The digits of an integer that does not fit 64 bits are rounded in steps: as many of them as fit form
a significand, which is multiplied by a power of ten. The significand has 60 bits at least and the
power is eight at least, so the number that comes out, if it is finite, has a magnitude of at least
`2 ^ 63`.
-/

namespace DocQuery

namespace Binary64

/-- A natural number is not negative as a binary64 number. -/
theorem negative_ofInt_natCast (n : Nat) : (ofInt n).negative = false := by
  have hsign : decide ((n : Int) < 0) = false := decide_eq_false (by omega)
  rw [ofInt, ofQuotient?, ofUnits?, hsign]
  split <;> rfl

/-- An integer that rounds to a finite number does not round below a power of two. -/
theorem le_magnitude_ofInt {n t : Nat} (hlow : hidden * 1 <<< t ≤ n) (h : n < integerBound) :
    hidden * 1 <<< t * one ≤ (ofInt n).magnitude := by
  obtain ⟨x, hx, -, hmagnitude⟩ := exists_ofQuotient? hlow h false
  rwa [ofInt, Int.natAbs_natCast, decide_eq_false (by omega), hx, Option.getD_some]

/-- Neither does the product of two numbers. -/
theorem le_magnitude_of_mul?_eq_some {x y z : Binary64} {s : Nat} (hz : x.mul? y = some z)
    (h : hidden * one <<< s ≤ x.magnitude * y.magnitude) :
    z.negative = (x.negative != y.negative) ∧ hidden * 1 <<< s ≤ z.magnitude := by
  rw [mul?, ofUnits?] at hz
  split at hz
  · cases hz
    exact ⟨rfl, le_magnitudeAt_nearestRank one_pos h⟩
  · cases hz

end Binary64

namespace Numeral

/-- Digits that form a number beyond 64 bits are kept while they fit. What is kept would not fit
with one more digit, and at least one digit is dropped. -/
theorem exists_absorb {start : Nat} {digits : List Nat} (hdigit : ∀ digit ∈ digits, digit < 10)
    (hstart : start < UInt64.size) (h : UInt64.size ≤ continued start digits) :
    ∃ significand dropped, absorb start digits = (significand, dropped + 1) ∧
      significand < UInt64.size ∧ UInt64.size ≤ significand * 10 + 9 := by
  induction digits generalizing start with
  | nil => exact absurd h (Nat.not_le.mpr hstart)
  | cons digit rest ih =>
    rw [List.forall_mem_cons] at hdigit
    rw [absorb]
    split
    · next hfits => exact ih hdigit.2 hfits h
    · exact ⟨start, rest.length, rfl, hstart, by omega⟩

/-- A finite power of ten, other than one, is eight at least, rounded too. -/
theorem le_magnitude_powerOfTen {k : Nat} (hpos : 0 < k) (h : k ≤ maxPower) :
    8 * Binary64.one ≤ (powerOfTen k).magnitude := by
  by_cases hsmall : k < 16
  · have hexact : ∀ k < 16, 0 < k → 8 * Binary64.one ≤ (powerOfTen k).magnitude := by
      decide +kernel
    exact hexact k hsmall hpos
  · have hlow : Binary64.hidden * 1 <<< 0 ≤ 10 ^ k :=
      calc Binary64.hidden * 1 <<< 0 ≤ 10 ^ 16 := by decide +kernel
        _ ≤ 10 ^ k := Nat.pow_le_pow_right (by decide) (Nat.le_of_not_lt hsmall)
    have hfinite : 10 ^ k < Binary64.integerBound :=
      calc 10 ^ k ≤ 10 ^ maxPower := Nat.pow_le_pow_right (by decide) h
        _ < Binary64.integerBound := by decide +kernel
    calc 8 * Binary64.one ≤ Binary64.hidden * 1 <<< 0 * Binary64.one :=
          Nat.mul_le_mul_right Binary64.one (by decide +kernel)
      _ ≤ (powerOfTen k).magnitude := Binary64.le_magnitude_ofInt hlow hfinite

/-- A number with a positive magnitude is not zero. -/
theorem isZero_eq_false_of_pos {x : Binary64} (h : 0 < x.magnitude) : x.isZero = false := by
  rw [Binary64.isZero, beq_eq_false_iff_ne]
  intro hzero
  rw [Binary64.magnitude, hzero] at h
  exact absurd h (by decide)

/-- A significand of 64 bits, or of 60 bits and a power of ten, is rounded in steps to a magnitude
of at least `2 ^ 63`. -/
theorem le_magnitude_of_real?_eq_some {negative : Bool} {significand power : Nat} {x : Binary64}
    (h : real? negative ⟨significand, power⟩ = some x) (hsize : significand < UInt64.size)
    (hlarge : power = 0 ∧ 2 ^ 63 ≤ significand ∨ 0 < power ∧ 2 ^ 60 ≤ significand) :
    x.negative = negative ∧ 2 ^ 63 * Binary64.one ≤ x.magnitude := by
  have hfinite : significand < Binary64.integerBound := hsize.trans (by decide +kernel)
  have hsignificand : 2 ^ 60 * Binary64.one ≤ (Binary64.ofInt significand).magnitude :=
    Binary64.le_magnitude_ofInt (t := 8) (show 2 ^ 60 ≤ significand by omega) hfinite
  have hnonzero := isZero_eq_false_of_pos
    (Nat.lt_of_lt_of_le (Nat.mul_pos (by decide) Binary64.one_pos) hsignificand)
  -- Both factors are counted in units of `2 ^ -1074`.
  have hproduct (hpower : power ≤ maxPower) : Binary64.hidden * Binary64.one <<< 1085 ≤
      (Binary64.ofInt significand).magnitude * (powerOfTen power).magnitude := by
    have hunits : Binary64.hidden * Binary64.one <<< 1085 =
        2 ^ 63 * Binary64.one * Binary64.one := by decide +kernel
    rw [hunits]
    rcases hlarge with ⟨rfl, hlarge⟩ | ⟨hpos, -⟩
    · have hone : (powerOfTen 0).magnitude = Binary64.one := by decide +kernel
      rw [hone]
      exact Nat.mul_le_mul_right _ (Binary64.le_magnitude_ofInt (t := 11) hlarge hfinite)
    · calc 2 ^ 63 * Binary64.one * Binary64.one
          = 2 ^ 60 * Binary64.one * (8 * Binary64.one) := by ring
        _ ≤ _ := Nat.mul_le_mul hsignificand (le_magnitude_powerOfTen hpos hpower)
  simp only [real?, Int.natCast_nonneg, if_true, Int.toNat_natCast, Option.map_eq_some_iff] at h
  obtain ⟨y, hy, rfl⟩ := h
  have hlow : y.negative = false ∧ 2 ^ 63 * Binary64.one ≤ y.magnitude := by
    have hunits : Binary64.hidden * 1 <<< 1085 = 2 ^ 63 * Binary64.one := by decide +kernel
    unfold multiplyByPower? at hy
    split at hy
    · next hpower =>
      obtain ⟨hsign, hmagnitude⟩ := Binary64.le_magnitude_of_mul?_eq_some hy (hproduct hpower)
      rw [Binary64.negative_ofInt_natCast, powerOfTen, Binary64.negative_ofInt_natCast] at hsign
      exact ⟨hsign, hunits ▸ hmagnitude⟩
    · rw [hnonzero] at hy
      cases hy
  cases negative with
  | true => exact ⟨congrArg not hlow.1, hlow.2⟩
  | false => exact hlow

/-- Digits are less than ten. -/
theorem lt_ten_of_mem_digitsOf {n digit : Nat} (h : digit ∈ digitsOf n) : digit < 10 := by
  obtain ⟨c, hc, rfl⟩ := List.mem_map.mp h
  obtain ⟨-, hle⟩ := Char.isDigit_iff_toNat.mp (isDigit_of_mem_toDigits hc)
  change c.toNat ≤ 57 at hle
  omega

/-- The significand of an integer is the integer, if it fits 64 bits, or has 60 bits at least. -/
theorem exists_scaled_digitsOf (negative : Bool) (n : Nat) : ∃ significand power : Nat,
    (⟨negative, digitsOf n, [], false⟩ : Numeral).scaled = ⟨significand, power⟩ ∧
      significand < UInt64.size ∧
      (power = 0 ∧ significand = n ∨ 0 < power ∧ 2 ^ 60 ≤ significand) := by
  by_cases hfits : n < UInt64.size
  · have habsorb : absorb 0 (digitsOf n) = (continued 0 (digitsOf n), 0) :=
      absorb_of_lt ((continued_digitsOf n).symm ▸ hfits)
    rw [continued_digitsOf] at habsorb
    refine ⟨n, 0, ?_, hfits, .inl ⟨rfl, rfl⟩⟩
    rw [scaled, habsorb]
    rfl
  · have hlarge : UInt64.size ≤ continued 0 (digitsOf n) :=
      (continued_digitsOf n).symm ▸ Nat.le_of_not_lt hfits
    obtain ⟨significand, dropped, habsorb, hsize, hfull⟩ :=
      exists_absorb (fun digit => lt_ten_of_mem_digitsOf) (by decide) hlarge
    refine ⟨significand, dropped + 1, ?_, hsize, .inr ⟨Nat.succ_pos dropped, ?_⟩⟩
    · rw [scaled, habsorb]
      rfl
    · simp only [UInt64.size] at hfull
      omega

/-- The digits of an integer that is not one of 64 bits form a binary64 number of a magnitude of at
least `2 ^ 63`, if any. -/
theorem number?_digitsOf_of_large {negative : Bool} {n : Nat} {x : Number}
    (hlarge : ¬(-Number.signedBound ≤ (if negative then -(n : Int) else n) ∧
      (if negative then -(n : Int) else n) < UInt64.size))
    (h : number? ⟨negative, digitsOf n, [], false⟩ 0 = some x) :
    ∃ y, x = .float y ∧ y.negative = negative ∧ 2 ^ 63 * Binary64.one ≤ y.magnitude := by
  obtain ⟨significand, power, hscaled, hsize, hpower⟩ := exists_scaled_digitsOf negative n
  unfold number? at h
  dsimp only at h
  rw [dif_neg, hscaled, Int.add_zero] at h
  case hnc =>
    rw [hscaled]
    dsimp only
    rintro ⟨-, hzero, -, hbounds⟩
    have hexact : significand = n := by omega
    exact hlarge (hexact ▸ hbounds)
  dsimp only at h
  obtain ⟨y, hy, rfl⟩ := Option.map_eq_some_iff.mp h
  refine ⟨y, rfl, le_magnitude_of_real?_eq_some hy hsize ?_⟩
  rcases hpower with ⟨hzero, hexact⟩ | hpower
  · refine .inl ⟨hzero, hexact ▸ ?_⟩
    simp only [Number.signedBound, UInt64.size] at hlarge
    cases negative with
    | true =>
      simp only [if_true] at hlarge
      omega
    | false =>
      simp only [Bool.false_eq_true, if_false] at hlarge
      omega
  · exact .inr hpower

end Numeral

end DocQuery
