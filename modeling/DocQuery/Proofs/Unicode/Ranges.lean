import DocQuery.Unicode.Classes

/-!
# Sets of code points

A list of ranges is a set of code points. As the bits of a natural number such sets are compared
in a few operations, whatever their size, so that tables of hundreds of ranges can be held against
each other.
-/

namespace DocQuery.CodeRange

/-- Whether a code point lies in one of several ranges. -/
def anyHas (ranges : List CodeRange) (code : Nat) : Bool := ranges.any fun r => r.contains code

/-- A range has the code points between its ends. -/
theorem contains_iff {r : CodeRange} {code : Nat} :
    r.contains code ↔ r.first ≤ code ∧ code ≤ r.last := by
  simp only [contains, Bool.and_eq_true, decide_eq_true_eq]

/-- The code points of a range as bits. -/
def mask (r : CodeRange) : Nat := (1 <<< (r.last + 1 - r.first) - 1) <<< r.first

/-- The code points of several ranges as bits. -/
def maskOf (ranges : List CodeRange) : Nat := ranges.foldr (fun r bits => r.mask ||| bits) 0

/-- The bits of a range are its code points. -/
theorem testBit_mask (r : CodeRange) (code : Nat) : r.mask.testBit code = r.contains code := by
  rw [mask, Nat.one_shiftLeft, Nat.testBit_shiftLeft, Nat.testBit_two_pow_sub_one, contains,
    Bool.eq_iff_iff]
  simp only [Bool.and_eq_true, decide_eq_true_eq]
  omega

/-- The bits of several ranges are their code points. -/
theorem testBit_maskOf (ranges : List CodeRange) (code : Nat) :
    (maskOf ranges).testBit code = anyHas ranges code := by
  induction ranges with
  | nil => exact Nat.zero_testBit code
  | cons r ranges ih =>
    rw [anyHas, List.any_cons, ← anyHas, ← ih, ← testBit_mask]
    exact Nat.testBit_or r.mask (maskOf ranges) code

variable {ranges others : List CodeRange} {code : Nat}

/-- Code points of some ranges lie in others if their bits do. -/
theorem anyHas_of_subset (h : maskOf ranges &&& maskOf others = maskOf ranges)
    (hcode : anyHas ranges code) : anyHas others code := by
  rw [← testBit_maskOf, ← h, Nat.testBit_and, Bool.and_eq_true, testBit_maskOf,
    testBit_maskOf] at hcode
  exact hcode.2

/-- Code points of some ranges do not lie in others if they have no bit in common. -/
theorem not_anyHas_of_disjoint (h : maskOf ranges &&& maskOf others = 0)
    (hcode : anyHas ranges code) : anyHas others code = false := by
  rw [← testBit_maskOf, ← Bool.true_and (Nat.testBit _ _), ← hcode, ← testBit_maskOf ranges,
    ← Nat.testBit_and, h, Nat.zero_testBit]

/-- A code point lies in several ranges if it lies in one of them. -/
theorem anyHas_iff : anyHas ranges code ↔ ∃ r ∈ ranges, r.contains code := by
  simp only [anyHas, List.any_eq_true]

/-- Code points of ranges with ends below a bound are below it. -/
theorem lt_of_anyHas {bound : Nat} (h : ranges.all fun r => r.last.blt bound)
    (hcode : anyHas ranges code) : code < bound := by
  obtain ⟨r, hr, hcr⟩ := anyHas_iff.mp hcode
  have hlast := List.all_eq_true.mp h r hr
  rw [Nat.blt_eq] at hlast
  rw [contains_iff] at hcr
  omega

/-- Ranges that begin later are no matter to small code points. -/
theorem anyHas_take {n bound : Nat} (h : (ranges.drop n).all fun r => bound.ble r.first)
    (hcode : code < bound) : anyHas ranges code = anyHas (ranges.take n) code := by
  have hdrop : anyHas (ranges.drop n) code = false := by
    refine Bool.eq_false_iff.mpr fun hcontains => ?_
    obtain ⟨r, hr, hcr⟩ := anyHas_iff.mp hcontains
    have hfirst := List.all_eq_true.mp h r hr
    rw [Nat.ble_eq] at hfirst
    rw [contains_iff] at hcr
    omega
  calc anyHas ranges code = anyHas (ranges.take n ++ ranges.drop n) code := by
        rw [List.take_append_drop]
    _ = (anyHas (ranges.take n) code || anyHas (ranges.drop n) code) := List.any_append
    _ = anyHas (ranges.take n) code := by rw [hdrop, Bool.or_false]

end DocQuery.CodeRange
