import DocQuery.Proofs.Selector.Conjunction

/-!
# Operators written out

A test against a list of values says what single tests say together: to be one of them is to be
equal to some, to be none of them is to differ from each, to have them all is to be an array with an
item equal to each. A selector that every item satisfies is one whose negation no item does. The
operators look for equal values with their operands on different sides, so that the accounts agree
rests on the symmetry of collation, and that a range from a greater to a smaller value is empty on
its transitivity.
-/

namespace DocQuery

open Std

namespace Json

/-- The selector of the documents whose value at a field passes a test. -/
def atField (name operator : String) (operand : Json) : Json :=
  .single name (.single operator operand)

/-- Whether two values are selectors that the same documents satisfy. -/
def SelectAlike (a b : Json) : Prop :=
  ∃ s t, Selector.ofJson a = .ok s ∧ Selector.ofJson b = .ok t ∧
    ∀ document, s.isSatisfiedBy document = t.isSatisfiedBy document

end Json

namespace Condition

/-- To be one of several values is to be equal to some. -/
theorem isSatisfiedBy_oneOf (values : List Json) (value : Json) :
    (oneOf values).isSatisfiedBy value =
      values.any fun operand => (compare .eq operand).isSatisfiedBy value := by
  have hsymm (operand : Json) : Collation.compareValue operand value = .eq ↔
      Collation.compareValue value operand = .eq := OrientedCmp.eq_comm
  rw [isSatisfiedBy, Json.hasEqual, Bool.eq_iff_iff, List.any_eq_true, List.any_eq_true]
  simp only [isSatisfiedBy, Comparison.holds, beq_iff_eq, hsymm]

/-- To be none of several values is to differ from each. -/
theorem isSatisfiedBy_noneOf (values : List Json) (value : Json) :
    (noneOf values).isSatisfiedBy value =
      values.all fun operand => (compare .ne operand).isSatisfiedBy value := by
  have hnone : (noneOf values).isSatisfiedBy value = !(oneOf values).isSatisfiedBy value := rfl
  rw [hnone, isSatisfiedBy_oneOf, List.not_any_eq_all_not]
  rfl

/-- No value lies in a range from a greater to a smaller value. -/
theorem not_isSatisfiedBy_range {low high : Json} (h : Collation.compareValue low high = .gt)
    (value : Json) : ¬ ((compare .gte low).isSatisfiedBy value = true ∧
      (compare .lte high).isSatisfiedBy value = true) := by
  simp only [isSatisfiedBy, Comparison.holds, bne_iff_ne]
  rintro ⟨hlow, hhigh⟩
  have hlow' : (Collation.compareValue low value).isLE :=
    OrientedCmp.isGE_iff_isLE.mp (Ordering.ne_lt_iff_isGE.mp hlow)
  have hle := TransCmp.isLE_trans hlow' (Ordering.ne_gt_iff_isLE.mp hhigh)
  rw [h] at hle
  cases hle

end Condition

namespace Selector

/-- To have several values among the items is to be an array with an item equal to each. -/
theorem isSatisfiedBy_allOf (values : List Json) (value : Json) :
    (condition (.allOf values)).isSatisfiedBy value =
      ((condition (.kind .array)).isSatisfiedBy value &&
        values.all fun operand =>
          (element .someItem (.condition (.compare .eq operand))).isSatisfiedBy value) := by
  cases value <;> rfl

/-- Every item satisfies a selector if none satisfies its negation. -/
theorem isSatisfiedBy_everyItem (inner : Selector) (value : Json) :
    (element .everyItem inner).isSatisfiedBy value =
      ((condition (.kind .array)).isSatisfiedBy value &&
        !(element .someItem inner.not).isSatisfiedBy value) := by
  cases value with
  | arr items =>
    have harray : (condition (.kind .array)).isSatisfiedBy (.arr items) = true := rfl
    rw [harray, Bool.true_and, isSatisfiedBy, isSatisfiedBy, List.not_any_eq_all_not]
    simp only [isSatisfiedBy, Bool.not_not]
  | _ => rfl

/-- A disjunction is satisfied exactly if one of its selectors is. -/
theorem isSatisfiedBy_or_map {α : Type} (selector : α → Selector) (as : List α)
    (document : Json) :
    (combination .or (as.map selector)).isSatisfiedBy document =
      as.any fun a => (selector a).isSatisfiedBy document := by
  rw [isSatisfiedBy, anySatisfiedBy_eq_any, List.any_map]
  rfl

/-- A conjunction is satisfied exactly if all of its selectors are. -/
theorem isSatisfiedBy_and_map {α : Type} (selector : α → Selector) (as : List α)
    (document : Json) :
    (combination .and (as.map selector)).isSatisfiedBy document =
      as.all fun a => (selector a).isSatisfiedBy document := by
  rw [isSatisfiedBy, allSatisfiedBy_eq_all, List.all_map]
  rfl

/-- The selectors of a conjunction can be tested from the first one on. -/
theorem isSatisfiedBy_and_cons (first : Selector) (others : List Selector) (document : Json) :
    (combination .and (first :: others)).isSatisfiedBy document =
      (first.isSatisfiedBy document && (combination .and others).isSatisfiedBy document) := rfl

/-- Items are read from the first one on. -/
theorem ofItems_cons {item : Json} {items : List Json} {first : Selector}
    {others : List Selector} (hfirst : ofJson item = .ok first)
    (hothers : ofItems items = .ok others) : ofItems (item :: items) = .ok (first :: others) := by
  rw [ofItems, hfirst, hothers]
  rfl

/-- Items that are made in one way are read in one way. -/
theorem ofItems_map {α : Type} {item : α → Json} {selector : α → Selector} (as : List α)
    (h : ∀ a, ofJson (item a) = .ok (selector a)) :
    ofItems (as.map item) = .ok (as.map selector) := by
  rw [ofItems_eq_ok_iff, List.forall₂_map_left_iff, List.forall₂_map_right_iff, List.forall₂_same]
  exact fun a _ => h a

section AtField

variable {name : String} (hname : isReserved name = false)

include hname

/-- A test at a field is read as a condition of the field. -/
theorem ofJson_atField_leaf (leaf : Condition) :
    ofJson (.atField name leaf.operator.name leaf.operand) =
      .ok (.field (.ofName name) (.condition leaf)) :=
  ofJson_field hname (ofFieldValue_leaf leaf)

/-- A test of items or keys at a field is read with the selector inside it. -/
theorem ofJson_atField_element (quantifier : Quantifier) {value : Json} {inner : Selector}
    (h : ofJson value = .ok inner) :
    ofJson (.atField name (Operator.element quantifier).name value) =
      .ok (.field (.ofName name) (.element quantifier inner)) :=
  ofJson_field hname (ofFieldValue_element h)

/-- One of several values, written out. -/
theorem selectAlike_oneOf (values : List Json) :
    Json.SelectAlike (.atField name "$in" (.arr values))
      (.single "$or" (.arr (values.map (.atField name "$eq")))) := by
  have hequal (operand : Json) := ofJson_atField_leaf hname (.compare .eq operand)
  refine ⟨_, _, ofJson_atField_leaf hname (.oneOf values),
    @ofJson_combine .or _ _ (ofItems_map values hequal), fun document => ?_⟩
  rw [isSatisfiedBy_or_map]
  exact Condition.isSatisfiedBy_oneOf values _

/-- None of several values, written out. -/
theorem selectAlike_noneOf (values : List Json) :
    Json.SelectAlike (.atField name "$nin" (.arr values))
      (.single "$and" (.arr (values.map (.atField name "$ne")))) := by
  have hdiffer (operand : Json) := ofJson_atField_leaf hname (.compare .ne operand)
  refine ⟨_, _, ofJson_atField_leaf hname (.noneOf values),
    @ofJson_combine .and _ _ (ofItems_map values hdiffer), fun document => ?_⟩
  rw [isSatisfiedBy_and_map]
  exact Condition.isSatisfiedBy_noneOf values _

/-- All of several values, written out. -/
theorem selectAlike_allOf (values : List Json) :
    Json.SelectAlike (.atField name "$all" (.arr values))
      (.single "$and" (.arr (.atField name "$type" (.str "array") ::
        values.map fun operand => .atField name "$elemMatch" (.single "$eq" operand)))) := by
  have harray := ofJson_atField_leaf hname (.kind .array)
  have hitem (operand : Json) :=
    ofJson_atField_element hname .someItem (ofJson_compare .eq operand)
  refine ⟨_, _, ofJson_atField_leaf hname (.allOf values),
    @ofJson_combine .and _ _ (ofItems_cons harray (ofItems_map values hitem)),
    fun document => ?_⟩
  rw [isSatisfiedBy_and_cons, isSatisfiedBy_and_map]
  exact isSatisfiedBy_allOf values _

end AtField

/-- At a field, the tests against a list of values agree with what single tests say together: one of
them is some that is equal, none of them is differing from each, all of them is an array with an
item equal to each. Every item satisfies a selector exactly if there is an array and no item
satisfies the negation. No document has a value in a range from a greater to a smaller value. -/
theorem operators_written_out {name : String} (hname : isReserved name = false)
    (values : List Json) {inner : Json} {s : Selector} (hinner : ofJson inner = .ok s)
    (low high : Json) :
    Json.SelectAlike (.atField name "$in" (.arr values))
      (.single "$or" (.arr (values.map (.atField name "$eq")))) ∧
    Json.SelectAlike (.atField name "$nin" (.arr values))
      (.single "$and" (.arr (values.map (.atField name "$ne")))) ∧
    Json.SelectAlike (.atField name "$all" (.arr values))
      (.single "$and" (.arr (.atField name "$type" (.str "array") ::
        values.map fun operand => .atField name "$elemMatch" (.single "$eq" operand)))) ∧
    (∃ every array other,
      ofJson (.atField name "$allMatch" inner) = .ok every ∧
      ofJson (.atField name "$type" (.str "array")) = .ok array ∧
      ofJson (.atField name "$elemMatch" (.single "$not" inner)) = .ok other ∧
      ∀ document, every.isSatisfiedBy document = true ↔
        array.isSatisfiedBy document = true ∧ ¬ other.isSatisfiedBy document = true) ∧
    (∃ fromLow toHigh,
      ofJson (.atField name "$gte" low) = .ok fromLow ∧
      ofJson (.atField name "$lte" high) = .ok toHigh ∧
      (Collation.compareValue low high = .gt → ∀ document,
        ¬ (fromLow.isSatisfiedBy document = true ∧ toHigh.isSatisfiedBy document = true))) := by
  refine ⟨selectAlike_oneOf hname values, selectAlike_noneOf hname values,
    selectAlike_allOf hname values, ?_, ?_⟩
  · refine ⟨_, _, _, ofJson_atField_element hname .everyItem hinner,
      ofJson_atField_leaf hname (.kind .array),
      ofJson_atField_element hname .someItem (ofJson_not hinner), fun document => ?_⟩
    have hevery := isSatisfiedBy_everyItem s (document.reach (FieldPath.ofName name).keys)
    rw [isSatisfiedBy, hevery, Bool.and_eq_true, Bool.not_eq_true', ← Bool.not_eq_true]
    rfl
  · refine ⟨_, _, ofJson_atField_leaf hname (.compare .gte low),
      ofJson_atField_leaf hname (.compare .lte high), fun h document => ?_⟩
    exact Condition.not_isSatisfiedBy_range h _

/-- A field that is zero is one of a list with the zero of the other sign, and every item of an
empty array is greater than eight. -/
theorem operators_written_out_zeros :
    let values : List Json := [.str "x", .num (.float Binary64.zero.neg)]
    let zero : Json := .single "a" (.single "b" (.num (.ofUInt64 0)))
    let empty : Json := .single "a" (.single "b" (.arr []))
    ∃ one alternatives every : Selector,
      ofJson (.atField "a.b" "$in" (.arr values)) = .ok one ∧
      ofJson (.single "$or" (.arr (values.map (.atField "a.b" "$eq")))) = .ok alternatives ∧
      one.isSatisfiedBy zero = true ∧ alternatives.isSatisfiedBy zero = true ∧
      ofJson (.atField "a.b" "$allMatch" (.single "$gt" (.num (.ofUInt64 8)))) = .ok every ∧
      every.isSatisfiedBy empty = true := by
  intro values zero empty
  have hname : isReserved "a.b" = false := by decide
  have hgreater := ofJson_compare .gt (.num (.ofUInt64 8))
  obtain ⟨⟨one, alternatives, hone, halternatives, hsame⟩, -, -, ⟨every, array, other, hevery,
    harray, hother, hagree⟩, -⟩ :=
    operators_written_out hname values hgreater .null .null
  have hfound : one.isSatisfiedBy zero = true := by
    cases hone.symm.trans (ofJson_atField_leaf hname (.oneOf values))
    decide +kernel
  refine ⟨one, alternatives, every, hone, halternatives, hfound, hsame zero ▸ hfound, hevery, ?_⟩
  cases harray.symm.trans (ofJson_atField_leaf hname (.kind .array))
  cases hother.symm.trans (ofJson_atField_element hname .someItem (ofJson_not hgreater))
  exact (hagree empty).mpr (by decide +kernel)

end Selector

end DocQuery
