import DocQuery.Proofs.Number.Exact
import DocQuery.Proofs.Selector.RoundTrip

/-!
# Remainders

A test of remainders asks for the remainder of an integer, truncated toward zero, whether the
integer is written as one or as a binary64 number. The remainder is taken in signed arithmetic of
64 bits: it is exact for integers of this range, and an integer beyond it has the remainder of the
nearest end of the range.
-/

namespace DocQuery

/-- A value with a remainder is a number that denotes an integer. -/
theorem Condition.isSatisfiedBy_residue_iff {divisor : Int64} (h : divisor ≠ 0)
    (remainder : Int64) (value : Json) : (residue divisor remainder h).isSatisfiedBy value = true ↔
      ∃ x n, value = .num x ∧ x.Denotes n ∧
        (clampSigned n).tmod divisor.toInt = remainder.toInt := by
  rw [isSatisfiedBy, Option.any_eq_true]
  cases value with
  | num x =>
    constructor
    · rintro ⟨k, hk, hmod⟩
      obtain ⟨n, hn, rfl⟩ := Json.integral?_num_eq_some_iff.mp hk
      exact ⟨x, n, rfl, hn, beq_iff_eq.mp hmod⟩
    · rintro ⟨y, n, hxy, hn, hmod⟩
      cases hxy
      exact ⟨_, Json.integral?_num_eq_some_iff.mpr ⟨n, hn, rfl⟩, beq_iff_eq.mpr hmod⟩
  | _ =>
    constructor
    · rintro ⟨k, hk, -⟩
      cases hk
    · rintro ⟨x, n, hx, -⟩
      cases hx

namespace Selector

/-- A document satisfies a test of remainders at a field exactly if the field is a number that
denotes an integer and this integer, or the nearest end of the signed range, has the remainder. For
an integer of the signed range this is exact arithmetic. -/
theorem remainders_in_signed_range {name : String} (hname : isReserved name = false)
    {divisor : Int64} (hdivisor : divisor ≠ 0) (remainder : Int64) :
    ∃ s, ofJson (.single name (.single "$mod"
        (.arr [.num (.ofInt64 divisor), .num (.ofInt64 remainder)]))) = .ok s ∧
      (∀ document, s.isSatisfiedBy document = true ↔
        ∃ x n, document.reach (FieldPath.ofName name).keys = .num x ∧ x.Denotes n ∧
          (clampSigned n).tmod divisor.toInt = remainder.toInt) ∧
      (∀ document x n, document.reach (FieldPath.ofName name).keys = .num x → x.Denotes n →
        Number.isSigned n = true →
          (s.isSatisfiedBy document = true ↔ n.tmod divisor.toInt = remainder.toInt)) := by
  have hmatch (document : Json) : (field (.ofName name)
      (.condition (.residue divisor remainder hdivisor))).isSatisfiedBy document = true ↔
        ∃ x n, document.reach (FieldPath.ofName name).keys = .num x ∧ x.Denotes n ∧
          (clampSigned n).tmod divisor.toInt = remainder.toInt :=
    Condition.isSatisfiedBy_residue_iff hdivisor remainder _
  refine ⟨_, ofJson_field hname (ofFieldValue_leaf (.residue divisor remainder hdivisor)), hmatch,
    fun document x n hx hn hsigned => ?_⟩
  rw [hmatch]
  constructor
  · rintro ⟨y, m, hy, hm, hmod⟩
    cases hx.symm.trans hy
    obtain rfl := hm.unique hn
    rwa [clampSigned_of_isSigned hsigned] at hmod
  · intro hmod
    exact ⟨x, n, hx, hn, (clampSigned_of_isSigned hsigned).symm ▸ hmod⟩

/-- The first integer that is not a binary64 number is odd, and a text has no remainder. -/
theorem remainders_in_signed_range_odd :
    let odd : Json := .single "a" (.single "$mod"
      (.arr [.num (.ofInt64 2), .num (.ofInt64 1)]))
    let x : Number := .ofUInt64 9007199254740993
    ∃ s, ofJson odd = .ok s ∧ x.Denotes 9007199254740993 ∧
      s.isSatisfiedBy (.single "a" (.num x)) = true ∧
      s.isSatisfiedBy (.single "a" (.str "1")) = false := by
  intro odd x
  have hname : isReserved "a" = false := by decide
  have hx : x.Denotes 9007199254740993 := Number.denotes_int_iff.mpr rfl
  obtain ⟨s, hread, hmatch, hexact⟩ :=
    remainders_in_signed_range hname (by decide : (2 : Int64) ≠ 0) 1
  refine ⟨s, hread, hx, (hexact _ x _ rfl hx (by decide)).mpr (by decide), ?_⟩
  rw [← Bool.not_eq_true, hmatch]
  rintro ⟨y, n, hy, -⟩
  cases hy

/-- The first integer beyond the signed range is even, but has the remainder of the odd integer
before it. -/
theorem remainder_of_integer_beyond_range :
    let even : Json := .single "n" (.single "$mod"
      (.arr [.num (.ofInt64 2), .num (.ofInt64 0)]))
    let x : Number := .ofUInt64 9223372036854775808
    ∃ s, ofJson even = .ok s ∧ x.Denotes 9223372036854775808 ∧
      (9223372036854775808 : Int).tmod (2 : Int64).toInt = (0 : Int64).toInt ∧
      s.isSatisfiedBy (.single "n" (.num x)) = false := by
  intro even x
  have hname : isReserved "n" = false := by decide
  have hread := ofJson_field hname (ofFieldValue_leaf (.residue 2 0 (by decide)))
  exact ⟨_, hread, Number.denotes_int_iff.mpr rfl, by decide, by decide +kernel⟩

end Selector

end DocQuery
