import DocQuery.Proofs.Json.Text
import DocQuery.Proofs.Selector.Normal

/-!
# The normal form is canonical

The text of a selector that values stand for determines it, so sorting by text leaves no choice.
Selectors that differ in the order of the selectors of combinations only, wherever these stand, have
one normal form.
-/

namespace DocQuery.Selector

/-- Selectors that differ in the order of the selectors of combinations. -/
inductive Reordered : Selector → Selector → Prop
  | refl (selector : Selector) : Reordered selector selector
  | trans {a b c : Selector} : Reordered a b → Reordered b c → Reordered a c
  /-- The selectors of one combination in another order. -/
  | permuted {as bs : List Selector} (combinator : Combinator) :
    as.Perm bs → Reordered (.combination combinator as) (.combination combinator bs)
  /-- The same difference inside one of the selectors of a combination. -/
  | child {a b : Selector} (combinator : Combinator) (before after : List Selector) :
    Reordered a b → Reordered (.combination combinator (before ++ a :: after))
      (.combination combinator (before ++ b :: after))
  | not {a b : Selector} : Reordered a b → Reordered (.not a) (.not b)
  | field {a b : Selector} (path : FieldPath) :
    Reordered a b → Reordered (.field path a) (.field path b)
  | element {a b : Selector} (quantifier : Quantifier) :
    Reordered a b → Reordered (.element quantifier a) (.element quantifier b)

/-- A selector can be put back into the order it had. -/
theorem Reordered.symm {a b : Selector} (h : Reordered a b) : Reordered b a := by
  induction h with
  | refl selector => exact .refl selector
  | trans _ _ ihab ihbc => exact ihbc.trans ihab
  | permuted combinator hperm => exact .permuted combinator hperm.symm
  | child combinator before after _ ih => exact .child combinator before after ih
  | not _ ih => exact .not ih
  | field path _ ih => exact .field path ih
  | element quantifier _ ih => exact .element quantifier ih

/-- All selectors of a combination can be reordered at once; some are done already. -/
theorem Reordered.children (combinator : Combinator) {f : Selector → Selector}
    {children : List Selector} (h : ∀ child ∈ children, Reordered child (f child))
    (done : List Selector) :
    Reordered (.combination combinator (done ++ children))
      (.combination combinator (done ++ children.map f)) := by
  induction children generalizing done with
  | nil => exact .refl _
  | cons child rest ih =>
    have hrest := ih (fun a ha => h a (List.mem_cons_of_mem child ha)) (done ++ [f child])
    rw [List.append_assoc, List.append_assoc] at hrest
    exact (Reordered.child combinator done rest (h child List.mem_cons_self)).trans hrest

/-- The normal form of a selector is the selector reordered. -/
theorem reordered_normalized (selector : Selector) : Reordered selector selector.normalized := by
  induction selector using inductionOn with
  | combination combinator children ih =>
    rw [normalized_combination]
    exact (Reordered.children combinator ih []).trans
      (.permuted combinator (sortByText_perm _).symm)
  | not child ih =>
    rw [normalized]
    exact .not ih
  | field path inner ih =>
    rw [normalized]
    exact .field path ih
  | condition leaf =>
    rw [normalized]
    exact .refl _
  | element quantifier inner ih =>
    rw [normalized]
    exact .element quantifier ih

/-- The text of a well-formed selector determines it. -/
theorem eq_of_text_eq {a b : Selector} (ha : a.WellFormed) (hb : b.WellFormed)
    (h : a.text = b.text) : a = b := by
  have hjson : a.toJson = b.toJson := Json.text_injective h
  have hread : Except.ok (ε := ParseError) a = .ok b := by
    rw [← (ofJson_toJson_both a).1 ha, hjson, (ofJson_toJson_both b).1 hb]
  exact Except.ok.inj hread

/-- Lists of the same well-formed selectors are sorted to the same list. -/
theorem sortByText_eq_of_perm {as bs : List Selector} (hperm : as.Perm bs)
    (hwf : ∀ a ∈ as, a.WellFormed) : sortByText as = sortByText bs := by
  have hsorted : (sortByText as).Perm (sortByText bs) :=
    (sortByText_perm as).trans (hperm.trans (sortByText_perm bs).symm)
  refine hsorted.eq_of_pairwise (fun a b ha hb hab hba => ?_) (pairwise_sortByText as)
    (pairwise_sortByText bs)
  rw [textLE_iff] at hab hba
  exact eq_of_text_eq (hwf a (mem_sortByText.mp ha))
    (hwf b (hperm.mem_iff.mpr (mem_sortByText.mp hb))) (String.le_antisymm hab hba)

/-- Reordering keeps the places that a selector can have. -/
theorem Reordered.wellFormed_both {a b : Selector} (h : Reordered a b) :
    (a.WellFormed → b.WellFormed) ∧ (a.WellFormedInField → b.WellFormedInField) := by
  induction h with
  | refl => exact ⟨id, id⟩
  | trans _ _ ihab ihbc => exact ⟨ihbc.1 ∘ ihab.1, ihbc.2 ∘ ihab.2⟩
  | permuted combinator hperm =>
    refine ⟨fun h => ?_, fun h => h.elim⟩
    rw [wellFormed_combination] at *
    exact fun child hchild => h child (hperm.mem_iff.mpr hchild)
  | child combinator before after _ ih =>
    refine ⟨fun h => ?_, fun h => h.elim⟩
    rw [wellFormed_combination, List.forall_mem_append, List.forall_mem_cons] at *
    exact ⟨h.1, ih.1 h.2.1, h.2.2⟩
  | not _ ih => exact ⟨ih.1, fun h => h.elim⟩
  | field path _ ih => exact ⟨fun h => ⟨h.1, h.2.1, ih.2 h.2.2⟩, fun h => h.elim⟩
  | element quantifier _ ih => exact ⟨fun h => h.elim, ih.1⟩

/-- Reordered selectors have the same normal form, in either place. -/
theorem Reordered.normalized_eq_both {a b : Selector} (h : Reordered a b) :
    (a.WellFormed → a.normalized = b.normalized) ∧
      (a.WellFormedInField → a.normalized = b.normalized) := by
  induction h with
  | refl => exact ⟨fun _ => rfl, fun _ => rfl⟩
  | trans hab _ ihab ihbc =>
    have hwf := hab.wellFormed_both
    exact ⟨fun h => (ihab.1 h).trans (ihbc.1 (hwf.1 h)),
      fun h => (ihab.2 h).trans (ihbc.2 (hwf.2 h))⟩
  | @permuted as bs combinator hperm =>
    refine ⟨fun h => ?_, fun h => h.elim⟩
    rw [wellFormed_combination] at h
    rw [normalized_combination, normalized_combination,
      sortByText_eq_of_perm (hperm.map normalized) fun child hchild => ?_]
    obtain ⟨original, horiginal, rfl⟩ := List.mem_map.mp hchild
    exact (reordered_normalized original).wellFormed_both.1 (h original horiginal)
  | child combinator before after _ ih =>
    refine ⟨fun h => ?_, fun h => h.elim⟩
    rw [wellFormed_combination, List.forall_mem_append, List.forall_mem_cons] at h
    rw [normalized_combination, normalized_combination, List.map_append, List.map_append,
      List.map_cons, List.map_cons, ih.1 h.2.1]
  | not _ ih =>
    refine ⟨fun h => ?_, fun h => h.elim⟩
    rw [normalized, normalized, ih.1 h]
  | field path _ ih =>
    refine ⟨fun h => ?_, fun h => h.elim⟩
    rw [normalized, normalized, ih.2 h.2.2]
  | element quantifier _ ih =>
    refine ⟨fun h => h.elim, fun h => ?_⟩
    rw [normalized, normalized, ih.1 h]

/-- The normal form is canonical for the order of selectors in combinations. Selectors of values
that differ in that order only, at any depth, have one normal form and one text of it; selectors
whose normal forms have one text differ in that order only. -/
theorem normal_form_canonical {v w : Json} {a b : Selector} (hv : ofJson v = .ok a)
    (hw : ofJson w = .ok b) :
    (Reordered a b → a.normalized = b.normalized ∧ (a.normalized == b.normalized) = true ∧
      a.normalized.text = b.normalized.text) ∧
    (a.normalized.text = b.normalized.text → Reordered a b) := by
  have ha : a.WellFormed := ((sound v).selector hv).1
  have hb : b.WellFormed := ((sound w).selector hw).1
  refine ⟨fun h => ?_, fun h => ?_⟩
  · rw [h.normalized_eq_both.1 ha]
    exact ⟨rfl, same_self _, rfl⟩
  · have heq : a.normalized = b.normalized :=
      eq_of_text_eq ((reordered_normalized a).wellFormed_both.1 ha)
        ((reordered_normalized b).wellFormed_both.1 hb) h
    exact (reordered_normalized a).trans (heq ▸ (reordered_normalized b).symm)

/-- Alternatives in another order below a test of items, and below a negation. -/
theorem normal_form_canonical_nested :
    let items (first second : Selector) : Selector :=
      .field (.ofName "a") (.element .someItem (.combination .or [first, second]))
    let above : Selector := .condition (.compare .gt (.bool true))
    let isNull : Selector := .condition (.compare .eq .null)
    let other : Selector := .not (.combination .nor [.matchAll, above])
    let left : Selector := .combination .and [items above isNull, other]
    let right : Selector := .combination .and [other, items isNull above]
    ofJson left.toJson = .ok left ∧ ofJson right.toJson = .ok right ∧ Reordered left right ∧
      left.normalized = right.normalized ∧ left.normalized.text = right.normalized.text := by
  intro items above isNull other left right
  have hleft : ofJson left.toJson = .ok left := rfl
  have hright : ofJson right.toJson = .ok right := rfl
  have hitems : Reordered (items above isNull) (items isNull above) :=
    .field _ (.element _ (.permuted .or (.swap _ _ _)))
  have hreordered : Reordered left right :=
    (Reordered.child .and [] [other] hitems).trans (.permuted .and (.swap _ _ _))
  obtain ⟨heq, -, htext⟩ := (normal_form_canonical hleft hright).1 hreordered
  exact ⟨hleft, hright, hreordered, heq, htext⟩

end DocQuery.Selector
