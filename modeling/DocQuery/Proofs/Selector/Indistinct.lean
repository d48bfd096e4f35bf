import DocQuery.Proofs.Selector.Sameness

/-!
# Values that no selector tells apart

Two values that are equal in collation order can differ in how their numbers are represented. What
stands in one of them stands in the other, under the same keys and at the same places, and is equal
again, so walking through both in step meets equal values only. Every test but that of a remainder
decides by collation, by the kind, by the length or by a text, and gives one answer for both.
-/

namespace DocQuery

open Std

namespace Json

/-- Two well-formed values that are equal in collation order. -/
structure Coincide (v w : Json) : Prop where
  left : v.WellFormed
  right : w.WellFormed
  equal : Collation.compareValue v w = .eq

namespace Coincide

/-- Equal values have one structure. -/
theorem alike {v w : Json} (h : Coincide v w) : v.Alike w :=
  Collation.alike_of_compareValue_eq h.left h.right h.equal

/-- Null coincides with itself. -/
theorem null : Coincide .null .null := ⟨trivial, trivial, rfl⟩

/-- Equal arrays have equal items at the same places. -/
theorem items {as bs : List Json} (h : Coincide (.arr as) (.arr bs)) :
    List.Forall₂ Coincide as bs := by
  obtain ⟨ha, hb, hequal⟩ := h
  rw [wellFormed_arr] at ha hb
  rw [Collation.compareValue_arr, Collation.compareLex_eq_eq_iff] at hequal
  rw [List.forall₂_iff_get] at hequal ⊢
  obtain ⟨hlength, hget⟩ := hequal
  exact ⟨hlength, fun i hi hj =>
    ⟨ha _ (List.getElem_mem hi), hb _ (List.getElem_mem hj), hget i hi hj⟩⟩

/-- Equal objects have equal values under one key. -/
theorem entries {as bs : List (String × Json)} (h : Coincide (.obj as) (.obj bs)) {key : String}
    {a b : Json} (ha : (key, a) ∈ as) (hb : (key, b) ∈ bs) : Coincide a b := by
  have hwa : a.WellFormed := ((wellFormed_obj as).mp h.left).2 _ ha
  have hwb : b.WellFormed := ((wellFormed_obj bs).mp h.right).2 _ hb
  cases h.alike with
  | obj keys members =>
    exact ⟨hwa, hwb, Collation.compareValue_eq_of_alike hwa hwb (members key a b ha hb)⟩

/-- Equal values have equal members, those that are missing being null. -/
theorem member {v w : Json} (h : Coincide v w) (key : String) :
    Coincide (v.member key) (w.member key) := by
  cases h.alike with
  | @obj as bs keys members =>
    change Coincide ((Entries.find? key as).getD .null) ((Entries.find? key bs).getD .null)
    cases ha : Entries.find? key as with
    | none =>
      have hb : Entries.find? key bs = none := by
        rw [Entries.find?_eq_none_iff] at ha ⊢
        rwa [← keys key]
      rw [hb]
      exact null
    | some a =>
      have hmem : (key, a) ∈ as := Entries.mem_of_find?_eq_some ha
      cases hb : Entries.find? key bs with
      | none =>
        have hkey : key ∈ as.map Prod.fst := List.mem_map_of_mem hmem
        exact absurd ((keys key).mp hkey) (Entries.find?_eq_none_iff.mp hb)
      | some b => exact h.entries hmem (Entries.mem_of_find?_eq_some hb)
  | _ => exact null

/-- Equal values have equal values at every field. -/
theorem reach {v w : Json} (h : Coincide v w) (keys : List String) :
    Coincide (v.reach keys) (w.reach keys) := by
  induction keys generalizing v w with
  | nil => exact h
  | cons key rest ih => exact ih (h.member key)

end Coincide

end Json

/-- Equal values satisfy the same conditions, but for remainders. -/
theorem Condition.isSatisfiedBy_eq_of_coincide {leaf : Condition}
    (hleaf : leaf.operator ≠ .test .residue) {v w : Json} (h : v.Coincide w) :
    leaf.isSatisfiedBy v = leaf.isSatisfiedBy w := by
  cases leaf with
  | compare comparison operand => rw [isSatisfiedBy, isSatisfiedBy, TransCmp.congr_left h.equal]
  | present expected => cases h.alike <;> rfl
  | kind expected => cases h.alike <;> rfl
  | oneOf values => exact Json.hasEqual_congr_right values h.equal
  | noneOf values =>
    rw [isSatisfiedBy, isSatisfiedBy, Json.hasEqual_congr_right values h.equal]
  | size length => cases h.alike with
    | arr length_eq => rw [isSatisfiedBy, isSatisfiedBy, length_eq]
    | _ => rfl
  | residue divisor remainder _ => exact absurd rfl hleaf
  | pattern regex => cases h.alike <;> rfl
  | allOf values => cases h.alike with
    | @arr as bs =>
      have hitems : List.Forall₂ (fun a b => Collation.compareValue a b = .eq) as bs :=
        h.items.imp fun _ _ hab => hab.equal
      rw [isSatisfiedBy, isSatisfiedBy]
      simp only [Json.hasEqual_congr_left hitems]
    | _ => rfl

namespace Selector

mutual

/-- The conditions of a selector, from left to right. -/
def conditions : Selector → List Condition
  | .combination _ children => conditionsOfList children
  | .not child => child.conditions
  | .field _ inner => inner.conditions
  | .condition leaf => [leaf]
  | .element _ inner => inner.conditions

/-- The conditions of several selectors, one selector after the other. -/
def conditionsOfList : List Selector → List Condition
  | [] => []
  | selector :: rest => selector.conditions ++ conditionsOfList rest

end

/-- The conditions of several selectors are those of each of them. -/
theorem mem_conditionsOfList {selectors : List Selector} {leaf : Condition} :
    leaf ∈ conditionsOfList selectors ↔ ∃ selector ∈ selectors, leaf ∈ selector.conditions := by
  induction selectors with
  | nil => simp [conditionsOfList]
  | cons selector rest ih => simp [conditionsOfList, ih]

/-- Whether a selector is satisfied by some key depends on the keys alone. -/
theorem isSatisfiedBy_someKey (inner : Selector) (members : List (String × Json)) :
    (element .someKey inner).isSatisfiedBy (.obj members) =
      (members.map Prod.fst).any fun key => inner.isSatisfiedBy (.str key) := by
  rw [isSatisfiedBy, List.any_map]
  rfl

/-- Applied to the items or keys of two equal values, a selector says the same of both if it does
not tell equal values apart. -/
theorem isSatisfiedBy_element_of_coincide {inner : Selector}
    (hinner : ∀ v w : Json, v.Coincide w → inner.isSatisfiedBy v = inner.isSatisfiedBy w)
    (quantifier : Quantifier) {v w : Json} (h : v.Coincide w) :
    (element quantifier inner).isSatisfiedBy v = (element quantifier inner).isSatisfiedBy w := by
  cases h.alike with
  | arr =>
    have hitems := h.items.imp hinner
    cases quantifier with
    | someItem => exact any_eq_of_forall₂ hitems
    | everyItem => exact all_eq_of_forall₂ hitems
    | someKey => rfl
  | @obj as bs keys members => cases quantifier with
    | someKey =>
      rw [isSatisfiedBy_someKey, isSatisfiedBy_someKey, Bool.eq_iff_iff, List.any_eq_true,
        List.any_eq_true]
      simp only [keys]
    | _ => rfl
  | _ => cases quantifier <;> rfl

/-- Equal values satisfy the same selectors, but for remainders. -/
theorem isSatisfiedBy_eq_of_coincide {s : Selector}
    (hs : ∀ leaf ∈ s.conditions, leaf.operator ≠ .test .residue) {v w : Json}
    (h : v.Coincide w) : s.isSatisfiedBy v = s.isSatisfiedBy w := by
  induction s using inductionOn generalizing v w with
  | combination combinator children ih =>
    refine isSatisfiedBy_combination_congr combinator (List.forall₂_same.mpr ?_)
    intro child hchild
    refine ih child hchild (fun leaf hleaf => hs leaf ?_) h
    exact mem_conditionsOfList.mpr ⟨child, hchild, hleaf⟩
  | not child ih => rw [isSatisfiedBy, isSatisfiedBy, ih hs h]
  | field path inner ih => exact ih hs (h.reach path.keys)
  | condition leaf => exact Condition.isSatisfiedBy_eq_of_coincide (hs leaf List.mem_cons_self) h
  | element quantifier inner ih =>
    exact isSatisfiedBy_element_of_coincide (fun _ _ => ih hs) quantifier h

/-- A selector without a remainder does not tell two equal values apart, whatever the numbers inside
them are represented by. -/
theorem indistinct_of_compareValue_eq {s : Selector}
    (hs : ∀ leaf ∈ s.conditions, leaf.operator ≠ .test .residue) {v w : Json} (hv : v.WellFormed)
    (hw : w.WellFormed) (h : Collation.compareValue v w = .eq) :
    s.isSatisfiedBy v = s.isSatisfiedBy w :=
  isSatisfiedBy_eq_of_coincide hs ⟨hv, hw, h⟩

/-- The zeros at a field and two large integers inside an array at another one, for a selector that
asks for a zero at the one or that no item of the other is that large. -/
theorem indistinct_of_compareValue_eq_zeros :
    let selector : Json := .single "$or" (.arr [
      .single "a.b" (.single "$in" (.arr [.str "x", .num (.float .zero)])),
      .single "$not" (.single "c" (.single "$elemMatch"
        (.single "$gte" (.num (.ofUInt64 9007199254740993)))))])
    let value (zero large : Number) : Json :=
      .obj [("a", .single "b" (.num zero)), ("c", .arr [.bool true, .num large])]
    let v := value (.ofUInt64 0) (.ofUInt64 9007199254740993)
    let w := value (.float Binary64.zero.neg) (.ofUInt64 9007199254740992)
    ∃ s, ofJson selector = .ok s ∧ (∀ leaf ∈ s.conditions, leaf.operator ≠ .test .residue) ∧
      Collation.compareValue v w = .eq ∧ s.isSatisfiedBy v = true ∧ s.isSatisfiedBy w = true := by
  intro selector value v w
  have hwell : ∀ zero large, (value zero large).WellFormed := by
    intro zero large
    have hkeys : "a" < "c" := by decide
    refine (Json.wellFormed_obj _).mpr ⟨List.pairwise_pair.mpr hkeys, ?_⟩
    simp [Json.single, Json.WellFormed, Json.WellFormedMembers, Json.WellFormedItems,
      Entries.Sorted]
  have hsorted : (Collation.compareText "a" "c").isLE = true := by decide
  have hsmall : (Number.ofUInt64 0).cmp (.float Binary64.zero.neg) = .eq := by decide +kernel
  have hlarge : (Number.ofUInt64 9007199254740993).cmp (.ofUInt64 9007199254740992) = .eq := by
    decide +kernel
  have hequal : Collation.compareValue v w = .eq := by
    simp [v, w, value, Json.single, Collation.sortMembers, List.mergeSort, hsorted, hsmall, hlarge,
      List.compareLex_cons_cons, List.compareLex_nil_nil, Collation.compareEntry,
      ReflCmp.compare_self]
  have hmatch : ∃ s, ofJson selector = .ok s ∧
      (∀ leaf ∈ s.conditions, leaf.operator ≠ .test .residue) ∧ s.isSatisfiedBy v = true :=
    ⟨_, rfl, by decide, by decide +kernel⟩
  obtain ⟨s, hread, hs, hv'⟩ := hmatch
  have hsame : s.isSatisfiedBy v = s.isSatisfiedBy w :=
    indistinct_of_compareValue_eq hs (hwell _ _) (hwell _ _) hequal
  exact ⟨s, hread, hs, hequal, hv', hsame ▸ hv'⟩

/-- Of two equal integers only one can be odd, which a remainder tells apart. -/
example :
    let odd : Selector := .condition (.residue 2 1 (by decide))
    let v : Json := .num (.ofUInt64 9007199254740993)
    let w : Json := .num (.ofUInt64 9007199254740992)
    Collation.compareValue v w = .eq ∧
      odd.isSatisfiedBy v = true ∧ odd.isSatisfiedBy w = false := by
  decide +kernel

end Selector

end DocQuery
