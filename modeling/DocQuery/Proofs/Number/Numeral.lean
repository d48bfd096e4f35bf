import DocQuery.Number.Numeral
import DocQuery.Proofs.Number.Spelling

/-!
# The numerals of integers

The digits of an integer of 64 bits form a numeral whose number is the integer.
-/

namespace DocQuery

/-- An integer is written with a sign, if it is negative, and the digits of its magnitude. -/
theorem Number.toList_toString (n : Int) : (toString n).toList =
    (if n < 0 then ['-'] else []) ++ Nat.toDigits 10 n.natAbs := by
  rw [Int.toString_eq_repr, Int.repr_eq_if]
  by_cases h : 0 ≤ n
  · have hmagnitude : n.toNat = n.natAbs := by omega
    rw [if_pos h, if_neg (by omega), Nat.toList_repr, hmagnitude, List.nil_append]
  · have hmagnitude : (-n).toNat = n.natAbs := by omega
    rw [if_neg h, if_pos (by omega), String.toList_append, Nat.toList_repr, hmagnitude]
    rfl

/-- Only the digits of zero start with a zero. -/
theorem head?_toDigits_ne_zero {n : Nat} (h : n ≠ 0) : (Nat.toDigits 10 n).head? ≠ some '0' := by
  induction n using Nat.strongRecOn with
  | ind n ih =>
    by_cases hsmall : n < 10
    · have hdigit : ∀ n < 10, n ≠ 0 → [Nat.digitChar n].head? ≠ some '0' := by decide
      rw [Nat.toDigits_of_lt_base hsmall]
      exact hdigit n hsmall h
    · have hshorter := ih (n / 10) (by omega) (by omega)
      obtain ⟨c, rest, hdigits⟩ := List.exists_cons_of_ne_nil
        (Nat.toDigits_ne_nil (n := n / 10) (b := 10))
      rw [hdigits] at hshorter
      rw [Nat.toDigits_of_base_le (by decide) (by omega), hdigits]
      exact hshorter

namespace Numeral

/-- The values of the decimal digits of a number. -/
def digitsOf (n : Nat) : List Nat := (Nat.toDigits 10 n).map fun c => c.toNat - 48

/-- The number that digits continue a number to. -/
def continued (start : Nat) (digits : List Nat) : Nat :=
  digits.foldl (fun n digit => n * 10 + digit) start

/-- A number is read from its digits. -/
theorem continued_digitsOf (n : Nat) : continued 0 (digitsOf n) = n := by
  have hdigits : Nat.ofDigitChars 10 (Nat.toDigits 10 n) 0 = n := Nat.ofDigitChars_ten_toDigits
  rw [Nat.ofDigitChars_eq_foldl] at hdigits
  simp only [Nat.mul_comm 10] at hdigits
  rw [continued, digitsOf, List.foldl_map]
  exact hdigits

/-- Further digits make a number no smaller. -/
theorem le_continued (start : Nat) (digits : List Nat) : start ≤ continued start digits := by
  induction digits generalizing start with
  | nil => exact Nat.le_refl start
  | cons digit rest ih =>
    calc start ≤ start * 10 + digit := by omega
      _ ≤ continued start (digit :: rest) := ih (start * 10 + digit)

/-- Digits are kept as long as the number they form fits 64 bits. -/
theorem absorb_of_lt {start : Nat} {digits : List Nat} (h : continued start digits < UInt64.size) :
    absorb start digits = (continued start digits, 0) := by
  induction digits generalizing start with
  | nil => rfl
  | cons digit rest ih =>
    have hfits : start * 10 + digit < UInt64.size :=
      Nat.lt_of_le_of_lt (le_continued (start * 10 + digit) rest) h
    rw [absorb, if_pos hfits, ih h]
    rfl

/-- The digits of an integer of 64 bits form a numeral of that integer. -/
theorem number?_digitsOf (n : Int) (bounds : -Number.signedBound ≤ n ∧ n < UInt64.size) :
    number? ⟨n < 0, digitsOf n.natAbs, [], false⟩ 0 = some (.int n bounds) := by
  have hfits : continued 0 (digitsOf n.natAbs) < UInt64.size := by
    have hlow : -(9223372036854775808 : Int) ≤ n := bounds.1
    have hhigh : n < 18446744073709551616 := bounds.2
    rw [continued_digitsOf]
    simp only [UInt64.size]
    omega
  have hscaled : (⟨n < 0, digitsOf n.natAbs, [], false⟩ : Numeral).scaled = ⟨n.natAbs, 0⟩ := by
    rw [scaled, absorb_of_lt hfits, continued_digitsOf]
    rfl
  have hvalue : (if decide (n < 0) = true then -(n.natAbs : Int) else n.natAbs) = n := by
    by_cases h : n < 0
    · rw [if_pos (decide_eq_true h)]
      omega
    · rw [if_neg (by simpa using h)]
      omega
  have hzero : ¬(decide (n < 0) = true ∧ n.natAbs = 0) := by
    rintro ⟨h, habs⟩
    have := of_decide_eq_true h
    omega
  unfold number?
  simp only [hscaled, hvalue]
  exact dif_pos ⟨rfl, trivial, hzero, bounds⟩

end Numeral

end DocQuery
