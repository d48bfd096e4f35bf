import DocQuery.Proofs.Binary64.Order
import DocQuery.Proofs.Collation.Value
import DocQuery.Proofs.Number.Exact

/-!
# Numbers in the order of values

Numbers are compared by their rounded values. Rounding keeps the order, so numbers are never
exchanged, whatever represents them; but numbers that no two binary64 numbers lie between may become
equal. Binary64 numbers and the integers up to `2 ^ 53` are not changed by rounding, so among them
the exact values decide.
-/

namespace DocQuery

open Binary64

/-- All numbers are rounded in the same way, whatever represents them. -/
theorem Number.units_toBinary64 (x : Number) : x.toBinary64.units = rounded x.units := by
  cases x with
  | int n bounds =>
    have hbound : n.natAbs < integerBound := by
      obtain ⟨hlow, hhigh⟩ := bounds
      rw [signedBound] at hlow
      simp only [UInt64.size] at hhigh
      calc n.natAbs ≤ 18446744073709551616 := by omega
        _ < integerBound := by decide +kernel
    exact units_ofInt hbound
  | float v => exact (rounded_units v).symm

namespace Collation

variable {x y : Number}

/-- Numbers are compared by the binary64 numbers they round to. -/
theorem compareValue_num_eq_rounded (x y : Number) :
    compareValue (.num x) (.num y) = compare (rounded x.units) (rounded y.units) := by
  rw [compareValue_num, Number.cmp, Binary64.cmp, x.units_toBinary64, y.units_toBinary64]

/-- Numbers are not exchanged. -/
theorem compareValue_num_ne_gt (h : x.units ≤ y.units) :
    compareValue (.num x) (.num y) ≠ .gt := by
  rw [compareValue_num_eq_rounded]
  intro hgt
  have hlt := Int.compare_eq_gt.mp hgt
  have hle := rounded_mono h
  omega

/-- Numbers with two binary64 numbers between them are told apart. -/
theorem compareValue_num_of_between {v w : Binary64} (hx : x.units ≤ v.units)
    (hvw : v.units < w.units) (hy : w.units ≤ y.units) :
    compareValue (.num x) (.num y) = .lt := by
  have hxv := rounded_mono hx
  have hwy := rounded_mono hy
  rw [rounded_units] at hxv hwy
  rw [compareValue_num_eq_rounded, Int.compare_eq_lt]
  omega

/-- Numbers that rounding does not change are compared by their exact values. -/
theorem compareValue_num_of_exact (hx : rounded x.units = x.units)
    (hy : rounded y.units = y.units) :
    compareValue (.num x) (.num y) = compare x.units y.units := by
  rw [compareValue_num_eq_rounded, hx, hy]

/-- Rounding does not change the integers up to `2 ^ 53`. -/
theorem rounded_of_denotes {n : Int} (h : x.Denotes n) (hn : n.natAbs ≤ 2 ^ 53) :
    rounded x.units = x.units := by
  rw [Number.Denotes] at h
  rw [h]
  exact rounded_of_natAbs_le hn

/-- The order of numbers never inverts that of their exact values. It is strict where two binary64
numbers lie between the exact values, between integers up to `2 ^ 53` and between binary64 numbers.
Numbers of one exact value are equal. -/
theorem numbers_in_numeric_order (x y : Number) :
    (x.units < y.units → compareValue (.num x) (.num y) ≠ .gt) ∧
    (x.units < y.units →
      (∃ v w : Binary64, v.units < w.units ∧ x.units ≤ v.units ∧ w.units ≤ y.units) ∨
      (∃ m n : Int, x.Denotes m ∧ y.Denotes n ∧ m.natAbs ≤ 2 ^ 53 ∧ n.natAbs ≤ 2 ^ 53) ∨
      (∃ v w : Binary64, x = .float v ∧ y = .float w) →
      compareValue (.num x) (.num y) = .lt) ∧
    (x.units = y.units → compareValue (.num x) (.num y) = .eq) := by
  refine ⟨fun hlt => compareValue_num_ne_gt hlt.le, fun hlt hapart => ?_, fun heq => ?_⟩
  · rcases hapart with ⟨v, w, hvw, hx, hy⟩ | ⟨m, n, hm, hn, hmbound, hnbound⟩ | ⟨v, w, rfl, rfl⟩
    · exact compareValue_num_of_between hx hvw hy
    · rw [compareValue_num_of_exact (rounded_of_denotes hm hmbound)
        (rounded_of_denotes hn hnbound)]
      exact Int.compare_eq_lt.mpr hlt
    · exact compareValue_num_of_between (Int.le_refl v.units) hlt (Int.le_refl w.units)
  · rw [compareValue_num_eq_rounded, heq]
    exact Std.ReflOrd.compare_self

/-- The integers `2 ^ 53 + 1` and `2 ^ 53 + 4` are told apart by the two binary64 numbers between
them, one of which is the second. The first is not told apart from `2 ^ 53`, but it is not before it
either; nor is the largest integer after `2 ^ 64`. -/
theorem numbers_in_numeric_order_beyond :
    compareValue (.num (.ofUInt64 9007199254740993)) (.num (.ofUInt64 9007199254740996)) = .lt ∧
      compareValue (.num (.ofUInt64 9007199254740992)) (.num (.ofUInt64 9007199254740993)) ≠ .gt ∧
      compareValue (.num (.ofUInt64 18446744073709551615))
        (.num (.float (ofInt 18446744073709551616))) ≠ .gt := by
  refine ⟨(numbers_in_numeric_order _ _).2.1 (by decide +kernel) (.inl ?_), ?_, ?_⟩
  · exact ⟨ofInt 9007199254740994, ofInt 9007199254740996, by decide +kernel⟩
  · exact (numbers_in_numeric_order _ _).1 (by decide +kernel)
  · exact (numbers_in_numeric_order _ _).1 (by decide +kernel)

end Collation

end DocQuery
