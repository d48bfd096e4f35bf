import DocQuery.Proofs.Collation.Text

/-!
# Levels of the order of texts

The levels are compared strictly one after the other: a level is looked at only when all levels
before it agree over the whole texts. On one level the first difference decides, whatever
follows it.
-/

namespace DocQuery.Collation

open Std

/-- What two lists begin with in common is not looked at. -/
theorem compareLex_append_left {α : Type} (cmp : α → α → Ordering) [ReflCmp cmp]
    (p x y : List α) : List.compareLex cmp (p ++ x) (p ++ y) = List.compareLex cmp x y := by
  induction p with
  | nil => rfl
  | cons c p ih =>
    have hself : cmp c c = .eq := ReflCmp.compare_self
    rw [List.cons_append, List.cons_append, List.compareLex_cons_cons, hself, Ordering.eq_then, ih]

section Level

variable {level : Weight → Nat} {v w x y : List Weight}

/-- One level does not tell lists of weights apart exactly if all their weights agree on it. -/
theorem compareLevel_eq_iff : compareLevel level v w = .eq ↔ v.map level = w.map level := by
  unfold compareLevel
  exact LawfulEqCmp.compare_eq_iff_eq

/-- The first difference on a level decides on it. -/
theorem compareLevel_of_lt {c d : Weight} (h : v.map level = w.map level)
    (hlt : level c < level d) : compareLevel level (v ++ c :: x) (w ++ d :: y) = .lt := by
  rw [compareLevel, List.map_append, List.map_append, h, compareLex_append_left, List.map_cons,
    List.map_cons, List.compareLex_cons_cons, Nat.compare_eq_lt.mpr hlt, Ordering.lt_then]

/-- A level that takes no notice of a change of the characters orders the changed texts alike. -/
theorem compareLevel_map {f : Char → Char} (h : ∀ c, level (weight (f c)) = level (weight c))
    (a b : List Char) :
    compareLevel level ((a.map f).map weight) ((b.map f).map weight) =
      compareLevel level (a.map weight) (b.map weight) := by
  simp only [compareLevel, List.map_map, Function.comp_def, h]

end Level

/-- A level that decides leaves nothing to those after it. -/
theorem then_of_ne_eq {o o' : Ordering} (h : o ≠ .eq) : o.then o' = o := by
  cases o with
  | eq => exact absurd rfl h
  | _ => rfl

/-- The order of texts up to the case of their letters, that is on the first two levels. -/
def compareUpToCase (a b : List Char) : Ordering :=
  (compareLevel Weight.primary (a.map weight) (b.map weight)).then
    (compareLevel Weight.secondary (a.map weight) (b.map weight))

variable {a b p q x y : List Char} {c d : Char}

/-- Texts that are equal up to case are compared by case, and then by code points. -/
theorem compareChars_eq_then : compareChars a b = (compareUpToCase a b).then
    ((compareLevel Weight.tertiary (a.map weight) (b.map weight)).then
      (List.compareLex (fun c d => compare c.toNat d.toNat) a b)) :=
  (Ordering.then_assoc _ _ _).symm

/-- Texts that differ by more than case are ordered without a look at it. -/
theorem compareChars_of_upToCase_ne (h : compareUpToCase a b ≠ .eq) :
    compareChars a b = compareUpToCase a b := by
  rw [compareChars_eq_then, then_of_ne_eq h]

/-- Texts that differ on the primary level are ordered without a look at the others. -/
theorem compareChars_of_primary_ne
    (h : compareLevel Weight.primary (a.map weight) (b.map weight) ≠ .eq) :
    compareChars a b = compareLevel Weight.primary (a.map weight) (b.map weight) := by
  rw [compareChars, then_of_ne_eq h]

/-- Texts that differ in case only are ordered by the first such difference. -/
theorem compareChars_of_tertiary_lt (h : compareUpToCase (p ++ c :: x) (q ++ d :: y) = .eq)
    (hsame : (p.map weight).map Weight.tertiary = (q.map weight).map Weight.tertiary)
    (hlt : (weight c).tertiary < (weight d).tertiary) :
    compareChars (p ++ c :: x) (q ++ d :: y) = .lt := by
  rw [compareChars_eq_then, h, Ordering.eq_then, List.map_append, List.map_append, List.map_cons,
    List.map_cons, compareLevel_of_lt hsame hlt, Ordering.lt_then]

/-- A first difference on the primary level decides. -/
theorem compareChars_of_primary_lt (hlt : (weight c).primary < (weight d).primary) :
    compareChars (p ++ c :: x) (p ++ d :: y) = .lt := by
  rw [compareChars_eq_then, compareUpToCase, List.map_append, List.map_append, List.map_cons,
    List.map_cons, compareLevel_of_lt rfl hlt, Ordering.lt_then, Ordering.lt_then]

/-- The first difference in primary weights decides, whatever follows it. -/
theorem compareText_of_primary_lt (p x y : String) {c d : Char}
    (hlt : (weight c).primary < (weight d).primary) :
    compareText (p ++ String.singleton c ++ x) (p ++ String.singleton d ++ y) = .lt := by
  simp only [compareText_eq_compareChars, String.toList_append, String.toList_singleton,
    List.append_assoc, List.singleton_append]
  exact compareChars_of_primary_lt hlt

end DocQuery.Collation
