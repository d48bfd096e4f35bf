import DocQuery.Proofs.Binary64.Order
import DocQuery.Proofs.Selector.Canonical
import DocQuery.Proofs.Selector.Operands
import Mathlib.Data.List.Perm.Basic

/-!
# Normal forms of the same selectors

Selectors that are the same differ in the signs of zeros only. The texts that a normal form is
sorted by show these signs, so the normal forms of the same selectors can differ in the order of the
selectors of combinations, but in nothing else; they do not differ if no negative zero stands below
a combination of several selectors.
-/

namespace DocQuery

open Binary64

/-- A number that is not zero is determined by its value. -/
theorem Binary64.eq_of_units_eq {x y : Binary64} (h : x.units = y.units)
    (hx : x.isZero = false) : x = y := by
  have hpos : 0 < x.magnitude := magnitude_pos hx
  have hboth : x.negative = y.negative ∧ x.magnitude = y.magnitude := by
    rw [units, units] at h
    cases hnx : x.negative <;> cases hny : y.negative <;> simp [hnx, hny] at h <;> simp <;> omega
  have hrank : x.rank = y.rank := by
    rw [← nearestRank_magnitudeAt x.rank, ← nearestRank_magnitudeAt y.rank]
    exact congrArg (nearestRank · 1) hboth.2
  cases x
  cases y
  cases hboth.1
  cases hrank
  rfl

namespace Number

/-- The zero that is the same number as zero but has another text. -/
def negativeZero : Number := .float Binary64.zero.neg

/-- The same numbers are equal if neither is the negative zero. -/
theorem eq_of_same {m n : Number} (h : m.same n = true) (hm : m ≠ negativeZero)
    (hn : n ≠ negativeZero) : m = n := by
  -- A zero that is not the negative one is positive.
  have hzero : ∀ x : Binary64, x.isZero = true → float x ≠ negativeZero → x = .zero := by
    rintro ⟨negative, rank, hrank⟩ h hne
    obtain rfl : rank = 0 := beq_iff_eq.mp h
    cases negative with
    | false => rfl
    | true => exact absurd rfl hne
  cases m with
  | int a ha => cases n with
    | int b hb =>
      obtain rfl : a = b := beq_iff_eq.mp h
      rfl
    | float y => cases h
  | float x => cases n with
    | int b hb => cases h
    | float y =>
      have hunits : x.units = y.units := beq_iff_eq.mp h
      cases hx : x.isZero with
      | false => rw [eq_of_units_eq hunits hx]
      | true =>
        cases hy : y.isZero with
        | false => rw [eq_of_units_eq hunits.symm hy]
        | true => rw [hzero x hx hm, hzero y hy hn]

end Number

/-- Lists related item by item are equal if related items are. -/
private theorem eq_of_forall₂ {α : Type} {R : α → α → Prop} {as bs : List α}
    (h : List.Forall₂ R as bs) (heq : ∀ a ∈ as, ∀ b ∈ bs, R a b → a = b) : as = bs := by
  induction h with
  | nil => rfl
  | cons hab _ ih =>
    rw [heq _ List.mem_cons_self _ List.mem_cons_self hab,
      ih fun a ha b hb => heq a (List.mem_cons_of_mem _ ha) b (List.mem_cons_of_mem _ hb)]

/-- The same values are equal if neither has a negative zero. -/
theorem Json.eq_of_same {x y : Json} (h : x.same y = true)
    (hx : ¬x.Contains .negativeZero) (hy : ¬y.Contains .negativeZero) : x = y := by
  induction x using Json.inductionOn generalizing y with
  | null => cases y with
    | null => rfl
    | _ => cases h
  | bool a => cases y with
    | bool b => rw [beq_iff_eq.mp h]
    | _ => cases h
  | num m => cases y with
    | num n =>
      rw [Number.eq_of_same h (fun heq => hx (heq ▸ .number)) fun heq => hy (heq ▸ .number)]
    | _ => cases h
  | str s => cases y with
    | str t => rw [beq_iff_eq.mp h]
    | _ => cases h
  | arr as ih => cases y with
    | arr bs =>
      rw [eq_of_forall₂ ((sameItems_iff as bs).mp h) fun a ha b hb hab =>
        ih a ha hab (fun hc => hx (.item ha hc)) fun hc => hy (.item hb hc)]
    | _ => cases h
  | obj as ih => cases y with
    | obj bs =>
      rw [eq_of_forall₂ ((sameMembers_iff as bs).mp h) fun a ha b hb hab =>
        Prod.ext hab.1 <| ih a ha hab.2 (fun hc => hx (.member ha hc)) fun hc => hy (.member hb hc)]
    | _ => cases h

namespace Selector

/-- Only a combination by the same operator is the same as a combination. -/
theorem exists_of_same_combination {a : Selector} {combinator : Combinator} {bs : List Selector}
    (h : a.same (.combination combinator bs) = true) :
    ∃ as, a = .combination combinator as ∧ List.Forall₂ (fun a b => a.same b = true) as bs := by
  cases a with
  | combination combinator' as =>
    rw [same, Bool.and_eq_true, beq_iff_eq, sameList_iff] at h
    exact ⟨as, by rw [h.1], h.2⟩
  | _ => cases h

/-- Only a negation is the same as a negation. -/
theorem exists_of_same_not {a b : Selector} (h : a.same (.not b) = true) :
    ∃ child, a = .not child ∧ child.same b = true := by
  cases a with
  | not child => exact ⟨child, rfl, h⟩
  | _ => cases h

/-- Only a selector of the same field is the same as that of a field. -/
theorem exists_of_same_field {a b : Selector} {path : FieldPath}
    (h : a.same (.field path b) = true) :
    ∃ inner, a = .field path inner ∧ inner.same b = true := by
  cases a with
  | field path' inner =>
    rw [same, Bool.and_eq_true, beq_iff_eq] at h
    exact ⟨inner, by rw [h.1], h.2⟩
  | _ => cases h

/-- Only a test by the same operator is the same as a test of items or keys. -/
theorem exists_of_same_element {a b : Selector} {quantifier : Quantifier}
    (h : a.same (.element quantifier b) = true) :
    ∃ inner, a = .element quantifier inner ∧ inner.same b = true := by
  cases a with
  | element quantifier' inner =>
    rw [same, Bool.and_eq_true, beq_iff_eq] at h
    exact ⟨inner, by rw [h.1], h.2⟩
  | _ => cases h

/-- Only a condition is the same as a condition. -/
theorem exists_of_same_condition {a : Selector} {leaf : Condition}
    (h : a.same (.condition leaf) = true) :
    ∃ other, a = .condition other ∧ other.same leaf = true := by
  cases a with
  | condition other => exact ⟨other, rfl, h⟩
  | _ => cases h

/-- The same selectors are equal if neither mentions a negative zero. -/
theorem eq_of_same {a b : Selector} (h : a.same b = true) (ha : ¬a.Mentions .negativeZero)
    (hb : ¬b.Mentions .negativeZero) : a = b := by
  induction b using inductionOn generalizing a with
  | combination combinator bs ih =>
    obtain ⟨as, rfl, hlist⟩ := exists_of_same_combination h
    rw [eq_of_forall₂ hlist fun a ha' b hb' hab =>
      ih b hb' hab (fun hc => ha (.child ha' hc)) fun hc => hb (.child hb' hc)]
  | not b ih =>
    obtain ⟨child, rfl, hsame⟩ := exists_of_same_not h
    rw [ih hsame (fun hc => ha (.not hc)) fun hc => hb (.not hc)]
  | field path b ih =>
    obtain ⟨inner, rfl, hsame⟩ := exists_of_same_field h
    rw [ih hsame (fun hc => ha (.field hc)) fun hc => hb (.field hc)]
  | condition leaf =>
    obtain ⟨other, rfl, hsame⟩ := exists_of_same_condition h
    obtain ⟨hop, hoperand⟩ := (Condition.same_iff other leaf).mp hsame
    have heq := Json.eq_of_same hoperand (fun hc => ha (.operand hc)) fun hc => hb (.operand hc)
    rw [Condition.eq_of_operand_eq hop heq]
  | element quantifier b ih =>
    obtain ⟨inner, rfl, hsame⟩ := exists_of_same_element h
    rw [ih hsame (fun hc => ha (.element hc)) fun hc => hb (.element hc)]

/-- A reordering of a selector can be repeated on any selector that is the same. -/
theorem Reordered.exists_same {b c : Selector} (h : Reordered b c) {a : Selector}
    (hab : a.same b = true) : ∃ d, Reordered a d ∧ d.same c = true := by
  induction h generalizing a with
  | refl => exact ⟨a, .refl a, hab⟩
  | trans _ _ ihb ihc =>
    obtain ⟨d, had, hd⟩ := ihb hab
    obtain ⟨e, hde, he⟩ := ihc hd
    exact ⟨e, had.trans hde, he⟩
  | permuted combinator hperm =>
    obtain ⟨as, rfl, hlist⟩ := exists_of_same_combination hab
    obtain ⟨ds, hds, hperm'⟩ := List.perm_comp_forall₂ hperm.symm hlist.flip
    refine ⟨.combination combinator ds, .permuted combinator hperm'.symm, ?_⟩
    rw [same, beq_self_eq_true, Bool.true_and, sameList_iff]
    exact hds.flip
  | child combinator before after _ ih =>
    obtain ⟨as, rfl, hlist⟩ := exists_of_same_combination hab
    -- Only the selector at the place of the reordered one changes.
    obtain ⟨a, rest, ha, hrest, hdrop⟩ :=
      List.forall₂_cons_right_iff.mp (List.forall₂_drop_append _ _ _ hlist)
    obtain ⟨d, hd, hdsame⟩ := ih ha
    have has : as = as.take before.length ++ a :: rest := by
      rw [← hdrop, List.take_append_drop]
    rw [has]
    refine ⟨.combination combinator (as.take before.length ++ d :: rest),
      .child combinator _ _ hd, ?_⟩
    rw [same, beq_self_eq_true, Bool.true_and, sameList_iff]
    exact List.rel_append (List.forall₂_take_append _ _ _ hlist) (.cons hdsame hrest)
  | not _ ih =>
    obtain ⟨child, rfl, hsame⟩ := exists_of_same_not hab
    obtain ⟨d, hd, hdsame⟩ := ih hsame
    exact ⟨.not d, .not hd, hdsame⟩
  | field path _ ih =>
    obtain ⟨inner, rfl, hsame⟩ := exists_of_same_field hab
    obtain ⟨d, hd, hdsame⟩ := ih hsame
    exact ⟨.field path d, .field path hd, by rw [same, beq_self_eq_true, Bool.true_and, hdsame]⟩
  | element quantifier _ ih =>
    obtain ⟨inner, rfl, hsame⟩ := exists_of_same_element hab
    obtain ⟨d, hd, hdsame⟩ := ih hsame
    exact ⟨.element quantifier d, .element quantifier hd,
      by rw [same, beq_self_eq_true, Bool.true_and, hdsame]⟩

/-- No negative zero stands below a combination of several selectors, where its text would count. -/
inductive Settled : Selector → Prop
  | combination {combinator : Combinator} {children : List Selector}
    (several : 2 ≤ children.length → ¬Mentions .negativeZero (.combination combinator children))
    (each : ∀ child ∈ children, Settled child) : Settled (.combination combinator children)
  | not {child : Selector} (h : Settled child) : Settled (.not child)
  | field {path : FieldPath} {inner : Selector} (h : Settled inner) : Settled (.field path inner)
  | condition (leaf : Condition) : Settled (.condition leaf)
  | element {quantifier : Quantifier} {inner : Selector} (h : Settled inner) :
    Settled (.element quantifier inner)

private theorem sortByText_nil : sortByText [] = [] := (sortByText_perm []).eq_nil

private theorem sortByText_singleton (selector : Selector) : sortByText [selector] = [selector] :=
  List.perm_singleton.mp (sortByText_perm [selector])

/-- Where no text of a negative zero counts, the normal forms of the same selectors are the same. -/
theorem normalized_same {a b : Selector} (h : a.same b = true) (ha : a.Settled) (hb : b.Settled) :
    a.normalized.same b.normalized = true := by
  induction b using inductionOn generalizing a with
  | combination combinator bs ih =>
    obtain ⟨as, rfl, hlist⟩ := exists_of_same_combination h
    obtain ⟨hseveral, heach⟩ | _ := ha
    obtain ⟨hseveral', heach'⟩ | _ := hb
    by_cases hlen : 2 ≤ bs.length
    · rw [eq_of_same h (hseveral (hlist.length_eq ▸ hlen)) (hseveral' hlen)]
      exact same_self _
    · -- One selector at most is sorted already.
      rw [normalized_combination, normalized_combination]
      cases hlist with
      | nil => rw [List.map_nil, sortByText_nil, same_self]
      | @cons a b as bs hab hrest =>
        cases hrest with
        | cons _ _ => exact absurd (by simp) hlen
        | nil =>
          have hsame := ih b List.mem_cons_self hab (heach a List.mem_cons_self)
            (heach' b List.mem_cons_self)
          rw [List.map_singleton, List.map_singleton, sortByText_singleton, sortByText_singleton,
            same, beq_self_eq_true, Bool.true_and, sameList_iff]
          exact .cons hsame .nil
  | not b ih =>
    obtain ⟨child, rfl, hsame⟩ := exists_of_same_not h
    cases ha with
    | not ha => cases hb with
      | not hb => exact ih hsame ha hb
  | field path b ih =>
    obtain ⟨inner, rfl, hsame⟩ := exists_of_same_field h
    cases ha with
    | field ha => cases hb with
      | field hb =>
        rw [normalized, normalized, same, beq_self_eq_true, Bool.true_and, ih hsame ha hb]
  | condition leaf =>
    obtain ⟨other, rfl, hsame⟩ := exists_of_same_condition h
    exact hsame
  | element quantifier b ih =>
    obtain ⟨inner, rfl, hsame⟩ := exists_of_same_element h
    cases ha with
    | element ha => cases hb with
      | element hb =>
        rw [normalized, normalized, same, beq_self_eq_true, Bool.true_and, ih hsame ha hb]

/-- The normal form of a selector is, but for the order of selectors in combinations, the same as
that of any selector that is the same. The order is the same too if no negative zero stands below a
combination of several selectors. -/
theorem normal_forms_of_same_selectors {a b : Selector} (h : (a == b) = true) :
    (∃ c, Reordered a.normalized c ∧ (c == b.normalized) = true) ∧
      (a.Settled → b.Settled → (a.normalized == b.normalized) = true) := by
  obtain ⟨c, hac, hcb⟩ := (reordered_normalized b).exists_same h
  exact ⟨⟨c, (reordered_normalized a).symm.trans hac, hcb⟩, normalized_same h⟩

/-- Either zero, as the only thing that a combination asks a field to be. -/
theorem normal_forms_of_same_selectors_alone :
    let equals (n : Number) : Selector := .field (.ofName "a") (.condition (.compare .eq (.num n)))
    let left : Selector := .combination .nor [equals (.float .zero)]
    let right : Selector := .combination .nor [equals .negativeZero]
    (left == right) = true ∧ left ≠ right ∧ (left.normalized == right.normalized) = true := by
  intro equals left right
  have hsame : (left == right) = true := by rfl
  have hsettled : ∀ n, (Selector.combination .nor [equals n]).Settled := fun n =>
    .combination (fun h => absurd h (by simp)) fun child hchild => by
      rw [List.mem_singleton.mp hchild]
      exact .field (.condition _)
  exact ⟨hsame, by simp [left, right, equals, Number.negativeZero, Binary64.neg, Binary64.zero],
    (normal_forms_of_same_selectors hsame).2 (hsettled _) (hsettled _)⟩

/-- A zero beside minus one is sorted after it, and the negative zero before it. -/
theorem same_selectors_sorted_apart :
    let equals (n : Number) : Selector := .field (.ofName "a") (.condition (.compare .eq (.num n)))
    let left : Selector := .combination .or [equals (.float .zero), equals (.ofInt64 (-1))]
    let right : Selector := .combination .or [equals .negativeZero, equals (.ofInt64 (-1))]
    ofJson left.toJson = .ok left ∧ ofJson right.toJson = .ok right ∧
      (left == right) = true ∧ (left.normalized == right.normalized) = false := by
  intro equals left right
  have hswap : textLE (equals (.float .zero)) (equals (.ofInt64 (-1))) = false := by decide
  have hkeep : textLE (equals .negativeZero) (equals (.ofInt64 (-1))) = true := by decide
  have hleft : left.normalized =
      .combination .or [equals (.ofInt64 (-1)), equals (.float .zero)] := by
    rw [normalized_combination, sortByText_eq_mergeSort]
    simp [equals, normalized, List.mergeSort, hswap]
  have hright : right.normalized = right := by
    rw [normalized_combination, sortByText_eq_mergeSort]
    simp [equals, right, normalized, List.mergeSort, hkeep]
  refine ⟨rfl, rfl, rfl, ?_⟩
  rw [hleft, hright]
  rfl

end Selector

end DocQuery
