import DocQuery.Proofs.Collation.Sameness
import DocQuery.Proofs.Selector.RoundTrip
import DocQuery.Selector.Match

/-!
# The same selectors

Selectors that are the same are satisfied by the same values. Their conditions have operands that
are the same, and every test of a value decides by collation, by equal numbers or by equal texts.
-/

namespace DocQuery

open Std

/-- Some member of one list passes a test exactly if some member of the other passes its own. -/
theorem any_eq_of_forall₂ {α : Type} {p q : α → Bool} {as bs : List α}
    (h : List.Forall₂ (fun a b => p a = q b) as bs) : as.any p = bs.any q := by
  induction h with
  | nil => rfl
  | cons hab _ ih => rw [List.any_cons, List.any_cons, hab, ih]

/-- All members of one list pass a test exactly if all members of the other pass their own. -/
theorem all_eq_of_forall₂ {α : Type} {p q : α → Bool} {as bs : List α}
    (h : List.Forall₂ (fun a b => p a = q b) as bs) : as.all p = bs.all q := by
  induction h with
  | nil => rfl
  | cons hab _ ih => rw [List.all_cons, List.all_cons, hab, ih]

namespace Json

/-- Lists of equal values have a value in common with the same values. -/
theorem hasEqual_congr_left {as bs : List Json}
    (h : List.Forall₂ (fun a b => Collation.compareValue a b = .eq) as bs) (value : Json) :
    hasEqual as value = hasEqual bs value :=
  any_eq_of_forall₂ <| h.imp fun _ _ hab => by rw [TransCmp.congr_left hab]

/-- Values that are equal in collation order are found among the same values. -/
theorem hasEqual_congr_right (values : List Json) {x y : Json}
    (h : Collation.compareValue x y = .eq) : hasEqual values x = hasEqual values y := by
  unfold hasEqual
  simp only [TransCmp.congr_right h]

/-- The same items are equal one by one. -/
theorem forall₂_compareValue_of_sameItems {as bs : List Json} (h : sameItems as bs = true) :
    List.Forall₂ (fun a b => Collation.compareValue a b = .eq) as bs :=
  ((sameItems_iff as bs).mp h).imp fun _ _ => Collation.compareValue_eq_of_same

end Json

/-- A pattern determines what it compiles to. -/
theorem Regex.eq_of_pattern_eq {r s : Regex} (h : r.pattern = s.pattern) : r = s :=
  Except.ok.inj <| (Regex.ofPattern_pattern r).symm.trans (h ▸ Regex.ofPattern_pattern s)

namespace Condition

/-- Conditions are the same exactly if their operators are, and their operands are the same. -/
theorem same_iff (a b : Condition) :
    a.same b = true ↔ a.operator = b.operator ∧ a.operand.same b.operand = true := by
  rw [same, Bool.and_eq_true, beq_iff_eq]

/-- The same conditions are satisfied by the same values. -/
theorem isSatisfiedBy_eq_of_same {a b : Condition} (h : a.same b = true) (value : Json) :
    a.isSatisfiedBy value = b.isSatisfiedBy value := by
  obtain ⟨hop, hoperand⟩ := (same_iff a b).mp h
  cases a with
  | compare comparison x => cases b with
    | compare comparison' y =>
      cases hop
      have hxy : x.same y = true := hoperand
      rw [isSatisfiedBy, isSatisfiedBy,
        TransCmp.congr_right (Collation.compareValue_eq_of_same hxy)]
    | _ => cases hop
  | present expected => cases b with
    | present expected' =>
      have heq : (expected == expected') = true := hoperand
      rw [beq_iff_eq.mp heq]
    | _ => cases hop
  | kind expected => cases b with
    | kind expected' =>
      have hname : (expected.name == expected'.name) = true := hoperand
      have heq : some expected = some expected' := by
        rw [← Json.Kind.ofName?_name, beq_iff_eq.mp hname, Json.Kind.ofName?_name]
      rw [Option.some.inj heq]
    | _ => cases hop
  | oneOf as => cases b with
    | oneOf bs =>
      exact Json.hasEqual_congr_left (Json.forall₂_compareValue_of_sameItems hoperand) value
    | _ => cases hop
  | noneOf as => cases b with
    | noneOf bs =>
      have heq := Json.hasEqual_congr_left (Json.forall₂_compareValue_of_sameItems hoperand) value
      rw [isSatisfiedBy, isSatisfiedBy, heq]
    | _ => cases hop
  | size length => cases b with
    | size length' =>
      have heq : ((length.toNat : Int) == length'.toNat) = true := hoperand
      rw [UInt64.toNat_inj.mp (Int.ofNat_inj.mp (beq_iff_eq.mp heq))]
    | _ => cases hop
  | residue divisor remainder _ => cases b with
    | residue divisor' remainder' _ =>
      have hboth : (divisor.toInt == divisor'.toInt &&
        (remainder.toInt == remainder'.toInt && true)) = true := hoperand
      simp only [Bool.and_true, Bool.and_eq_true, beq_iff_eq] at hboth
      rw [isSatisfiedBy, isSatisfiedBy, hboth.1, hboth.2]
    | _ => cases hop
  | pattern regex => cases b with
    | pattern regex' =>
      have heq : (regex.pattern == regex'.pattern) = true := hoperand
      rw [Regex.eq_of_pattern_eq (beq_iff_eq.mp heq)]
    | _ => cases hop
  | allOf as => cases b with
    | allOf bs =>
      have hequal := Json.forall₂_compareValue_of_sameItems hoperand
      cases value with
      | arr items =>
        exact all_eq_of_forall₂ <| hequal.imp fun _ _ hab => Json.hasEqual_congr_right items hab
      | _ => rfl
    | _ => cases hop

end Condition

namespace Selector

/-- Lists of selectors are the same exactly if their selectors are, place by place. -/
theorem sameList_iff (as bs : List Selector) :
    sameList as bs = true ↔ List.Forall₂ (fun a b => a.same b = true) as bs := by
  induction as generalizing bs with
  | nil => cases bs <;> simp [sameList]
  | cons a as ih => cases bs <;> simp [sameList, ih]

/-- Every selector is the same as itself. -/
theorem same_self (selector : Selector) : selector.same selector = true := by
  induction selector using inductionOn with
  | combination combinator children ih =>
    rw [same, beq_self_eq_true, Bool.true_and, sameList_iff, List.forall₂_same]
    exact ih
  | not child ih => exact ih
  | field path inner ih => rw [same, beq_self_eq_true, Bool.true_and, ih]
  | condition leaf => exact (Condition.same_iff leaf leaf).mpr ⟨rfl, Json.same_self _⟩
  | element quantifier inner ih => rw [same, beq_self_eq_true, Bool.true_and, ih]

/-- Several selectors are all satisfied if each of them is. -/
theorem allSatisfiedBy_eq_all (selectors : List Selector) (value : Json) :
    allSatisfiedBy selectors value = selectors.all fun s => s.isSatisfiedBy value := by
  induction selectors with
  | nil => rfl
  | cons selector rest ih => rw [allSatisfiedBy, ih, List.all_cons]

/-- Of several selectors, some is satisfied if one of them is. -/
theorem anySatisfiedBy_eq_any (selectors : List Selector) (value : Json) :
    anySatisfiedBy selectors value = selectors.any fun s => s.isSatisfiedBy value := by
  induction selectors with
  | nil => rfl
  | cons selector rest ih => rw [anySatisfiedBy, ih, List.any_cons]

/-- Selectors that say the same of two values one by one say the same in every combination. -/
theorem isSatisfiedBy_combination_congr (combinator : Combinator) {as bs : List Selector}
    {v w : Json}
    (h : List.Forall₂ (fun a b => a.isSatisfiedBy v = b.isSatisfiedBy w) as bs) :
    (combination combinator as).isSatisfiedBy v =
      (combination combinator bs).isSatisfiedBy w := by
  cases combinator <;>
    simp only [isSatisfiedBy, allSatisfiedBy_eq_all, anySatisfiedBy_eq_any,
      all_eq_of_forall₂ h, any_eq_of_forall₂ h]

/-- A selector applied to the items or keys of a value depends only on what it says of each. -/
theorem isSatisfiedBy_element_congr {a b : Selector}
    (h : ∀ value, a.isSatisfiedBy value = b.isSatisfiedBy value) (quantifier : Quantifier)
    (value : Json) :
    (element quantifier a).isSatisfiedBy value = (element quantifier b).isSatisfiedBy value := by
  cases quantifier <;> cases value <;> simp only [isSatisfiedBy, h]

/-- The same selectors are satisfied by the same values. -/
theorem isSatisfiedBy_eq_of_same {a b : Selector} (h : a.same b = true) (value : Json) :
    a.isSatisfiedBy value = b.isSatisfiedBy value := by
  induction a using inductionOn generalizing b value with
  | combination combinator as ih => cases b with
    | combination combinator' bs =>
      rw [same, Bool.and_eq_true, beq_iff_eq, sameList_iff] at h
      obtain ⟨rfl, hlist⟩ := h
      exact isSatisfiedBy_combination_congr combinator <|
        ((List.forall₂_and_left _ _).mpr ⟨fun child hchild => @ih child hchild, hlist⟩).imp
          fun _ _ hab => hab.1 hab.2 value
    | _ => cases h
  | not a ih => cases b with
    | not b => rw [isSatisfiedBy, isSatisfiedBy, ih h]
    | _ => cases h
  | field path a ih => cases b with
    | field path' b =>
      rw [same, Bool.and_eq_true, beq_iff_eq] at h
      rw [isSatisfiedBy, isSatisfiedBy, h.1, ih h.2]
    | _ => cases h
  | condition leaf => cases b with
    | condition leaf' => exact Condition.isSatisfiedBy_eq_of_same h value
    | _ => cases h
  | element quantifier a ih => cases b with
    | element quantifier' b =>
      rw [same, Bool.and_eq_true, beq_iff_eq] at h
      rw [h.1]
      exact isSatisfiedBy_element_congr (ih h.2) _ value
    | _ => cases h

end Selector

end DocQuery
