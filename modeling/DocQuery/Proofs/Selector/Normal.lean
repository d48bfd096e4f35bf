import DocQuery.Proofs.Selector.Sameness
import DocQuery.Selector.Text

/-!
# The normal form of selectors

The normal form reorders the selectors of combinations, which none of them depends on, so it is
satisfied by the same values. Sorting a sorted list changes nothing, so the normal form of a normal
form is itself.
-/

namespace DocQuery.Selector

/-- Selectors are normalized one by one. -/
theorem normalizedList_eq_map (selectors : List Selector) :
    normalizedList selectors = selectors.map normalized := by
  induction selectors with
  | nil => rfl
  | cons selector rest ih => rw [normalizedList, ih, List.map_cons]

/-- A combination is normalized by sorting its normalized selectors by their texts. -/
theorem normalized_combination (combinator : Combinator) (children : List Selector) :
    (combination combinator children).normalized =
      combination combinator (sortByText (children.map normalized)) := by
  rw [normalized, normalizedList_eq_map]

/-- Whether the text of one selector does not come after that of another. -/
def textLE (a b : Selector) : Bool := !decide (b.text < a.text)

/-- Selectors are in order exactly if their texts are. -/
theorem textLE_iff (a b : Selector) : textLE a b = true ↔ a.text ≤ b.text := by
  rw [textLE, Bool.not_eq_true', decide_eq_false_iff_not, String.not_lt]

private theorem textLE_trans (a b c : Selector) (hab : textLE a b = true)
    (hbc : textLE b c = true) : textLE a c = true := by
  rw [textLE_iff] at *
  exact String.le_trans hab hbc

private theorem textLE_total (a b : Selector) : (textLE a b || textLE b a) = true := by
  rw [Bool.or_eq_true, textLE_iff, textLE_iff]
  exact String.le_total _ _

/-- The texts that selectors are sorted by need not be kept beside them. -/
theorem sortByText_eq_mergeSort (selectors : List Selector) :
    sortByText selectors = selectors.mergeSort textLE := by
  have hkeyed := List.map_mergeSort (r := textLE) (l := selectors)
    (f := fun selector : Selector => (selector.text, selector))
    (s := fun a b => !decide (b.1 < a.1)) fun _ _ _ _ => rfl
  rw [sortByText, ← hkeyed, List.map_map]
  exact List.map_id _

/-- Sorting only changes the order of selectors. -/
theorem sortByText_perm (selectors : List Selector) : (sortByText selectors).Perm selectors := by
  rw [sortByText_eq_mergeSort]
  exact List.mergeSort_perm _ _

/-- Sorting keeps all selectors and adds none. -/
@[simp] theorem mem_sortByText {selectors : List Selector} {selector : Selector} :
    selector ∈ sortByText selectors ↔ selector ∈ selectors := (sortByText_perm selectors).mem_iff

/-- Sorted selectors are in the order of their texts. -/
theorem pairwise_sortByText (selectors : List Selector) :
    (sortByText selectors).Pairwise fun a b => textLE a b = true := by
  rw [sortByText_eq_mergeSort]
  exact List.pairwise_mergeSort textLE_trans textLE_total selectors

/-- Selectors that are sorted stay as they are. -/
theorem sortByText_sortByText (selectors : List Selector) :
    sortByText (sortByText selectors) = sortByText selectors := by
  rw [sortByText_eq_mergeSort (sortByText selectors)]
  exact List.mergeSort_of_pairwise (pairwise_sortByText selectors)

/-- A selector and its normal form are satisfied by the same values. -/
theorem isSatisfiedBy_normalized (selector : Selector) (value : Json) :
    selector.normalized.isSatisfiedBy value = selector.isSatisfiedBy value := by
  induction selector using inductionOn generalizing value with
  | combination combinator children ih =>
    have hall : (sortByText (children.map normalized)).all (fun s => s.isSatisfiedBy value) =
        children.all fun s => s.isSatisfiedBy value := by
      rw [Bool.eq_iff_iff, List.all_eq_true, List.all_eq_true]
      simp only [mem_sortByText, List.forall_mem_map]
      exact forall₂_congr fun child hchild => by rw [ih child hchild]
    have hany : (sortByText (children.map normalized)).any (fun s => s.isSatisfiedBy value) =
        children.any fun s => s.isSatisfiedBy value := by
      rw [Bool.eq_iff_iff, List.any_eq_true, List.any_eq_true]
      simp only [mem_sortByText, List.mem_map, exists_exists_and_eq_and]
      exact exists_congr fun child => and_congr_right fun hchild => by rw [ih child hchild]
    rw [normalized_combination]
    cases combinator <;>
      simp only [isSatisfiedBy, allSatisfiedBy_eq_all, anySatisfiedBy_eq_any, hall, hany]
  | not child ih => rw [normalized, isSatisfiedBy, isSatisfiedBy, ih]
  | field path inner ih => rw [normalized, isSatisfiedBy, isSatisfiedBy, ih]
  | condition leaf => rw [normalized]
  | element quantifier inner ih => exact isSatisfiedBy_element_congr ih quantifier value

/-- The normal form of a normal form is itself. -/
theorem normalized_normalized (selector : Selector) :
    selector.normalized.normalized = selector.normalized := by
  induction selector using inductionOn with
  | combination combinator children ih =>
    have hchildren : (sortByText (children.map normalized)).map normalized =
        sortByText (children.map normalized) := by
      refine (List.map_congr_left fun child hchild => ?_).trans (List.map_id _)
      obtain ⟨original, horiginal, rfl⟩ := List.mem_map.mp (mem_sortByText.mp hchild)
      exact ih original horiginal
    rw [normalized_combination, normalized_combination, hchildren, sortByText_sortByText]
  | not child ih => rw [normalized, normalized, ih]
  | field path inner ih => rw [normalized, normalized, ih]
  | condition leaf => rw [normalized, normalized]
  | element quantifier inner ih => rw [normalized, normalized, ih]

/-- The normal form keeps the meaning of a selector and is its own normal form. Selectors whose
normal forms are the same, operands counting as decoded values, are satisfied by the same values. -/
theorem normal_form_keeps_meaning :
    (∀ (s : Selector) (d : Json), s.normalized.isSatisfiedBy d = s.isSatisfiedBy d) ∧
    (∀ s : Selector, s.normalized.normalized = s.normalized) ∧
    (∀ a b : Selector, (a.normalized == b.normalized) = true →
      ∀ d : Json, a.isSatisfiedBy d = b.isSatisfiedBy d) := by
  refine ⟨isSatisfiedBy_normalized, normalized_normalized, fun a b h d => ?_⟩
  calc a.isSatisfiedBy d
      = a.normalized.isSatisfiedBy d := (isSatisfiedBy_normalized a d).symm
    _ = b.normalized.isSatisfiedBy d := isSatisfiedBy_eq_of_same h d
    _ = b.isSatisfiedBy d := isSatisfiedBy_normalized b d

/-- A field equal to a zero or to one: the order of the two and the sign of the zero do not count,
although the normal forms have different texts. -/
theorem normal_form_keeps_meaning_of_zeros :
    let equals (n : Number) : Selector := .field (.ofName "a") (.condition (.compare .eq (.num n)))
    let left : Selector := .combination .or [equals (.ofUInt64 1), equals (.float .zero)]
    let right : Selector :=
      .combination .or [equals (.float Binary64.zero.neg), equals (.ofUInt64 1)]
    (left.normalized == right.normalized) = true ∧ left.normalized.text ≠ right.normalized.text ∧
      ∀ d : Json, left.isSatisfiedBy d = right.isSatisfiedBy d := by
  intro equals left right
  have hswap : textLE (equals (.ofUInt64 1)) (equals (.float .zero)) = false := by decide
  have hkeep : textLE (equals (.float Binary64.zero.neg)) (equals (.ofUInt64 1)) = true := by decide
  have hleft : left.normalized =
      .combination .or [equals (.float .zero), equals (.ofUInt64 1)] := by
    rw [normalized_combination, sortByText_eq_mergeSort]
    simp [equals, normalized, List.mergeSort, hswap]
  have hright : right.normalized = right := by
    rw [normalized_combination, sortByText_eq_mergeSort]
    simp [equals, right, normalized, List.mergeSort, hkeep]
  have hsame : (left.normalized == right.normalized) = true := by
    rw [hleft, hright]
    rfl
  refine ⟨hsame, ?_, normal_form_keeps_meaning.2.2 left right hsame⟩
  rw [hleft, hright]
  decide

end DocQuery.Selector
