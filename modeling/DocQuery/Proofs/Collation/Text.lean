import DocQuery.Collation.Value

/-!
# The order of texts

Every level of two lists of weights is compared lexicographically, and so are the code points, so
the order of texts is a total preorder by composition. The last level tells all characters apart:
only identical texts are equal.
-/

namespace DocQuery.Collation

open Std

/-- An order pulled back along a function keeps its laws. -/
theorem transCmp_comap {α β : Type} (cmp : β → β → Ordering) [TransCmp cmp] (f : α → β) :
    TransCmp fun a b => cmp (f a) (f b) where
  eq_swap := OrientedCmp.eq_swap
  isLE_trans := TransCmp.isLE_trans

/-- One level of weights orders texts. -/
theorem transCmp_level (level : Weight → Nat) :
    TransCmp fun a b : List Char => compareLevel level (a.map weight) (b.map weight) :=
  transCmp_comap (List.compareLex compare) fun a : List Char => (a.map weight).map level

instance transCmp_codePoint : TransCmp fun c d : Char => compare c.toNat d.toNat :=
  transCmp_comap compare Char.toNat

instance lawfulEqCmp_codePoint : LawfulEqCmp fun c d : Char => compare c.toNat d.toNat where
  compare_self := ReflOrd.compare_self
  eq_of_compare h := Char.toNat_inj.mp (LawfulEqOrd.eq_of_compare h)

instance : TransCmp compareChars :=
  have := transCmp_level Weight.primary
  have := transCmp_level Weight.secondary
  have := transCmp_level Weight.tertiary
  inferInstanceAs <| TransCmp <| compareLex _ <| compareLex _ <| compareLex _ _

/-- Identical texts are equal on every level as well. -/
theorem compareText_eq_compareChars (s t : String) :
    compareText s t = compareChars s.toList t.toList := by
  rw [compareText]
  split
  next heq =>
    subst heq
    exact ReflCmp.compare_self.symm
  next => rfl

/-- The order of texts is a total preorder. -/
instance : TransCmp compareText := by
  have heq : compareText = fun s t => compareChars s.toList t.toList :=
    funext fun s => funext (compareText_eq_compareChars s)
  rw [heq]
  exact transCmp_comap compareChars String.toList

/-- Texts compared the other way around are in the opposite order. -/
theorem compareText_swap (s t : String) : compareText s t = (compareText t s).swap :=
  OrientedCmp.eq_swap

/-- Only identical texts are equal: the code points decide last. -/
instance : LawfulEqCmp compareText where
  compare_self := if_pos rfl
  eq_of_compare {s t} h := by
    simp only [compareText_eq_compareChars, compareChars, Ordering.then_eq_eq] at h
    exact String.toList_inj.mp (LawfulEqCmp.eq_of_compare h.2.2.2)

end DocQuery.Collation
