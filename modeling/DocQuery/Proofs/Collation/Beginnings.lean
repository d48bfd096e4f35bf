import DocQuery.Proofs.Collation.Levels
import DocQuery.Proofs.Collation.Value

/-!
# Common beginnings

What two texts begin with in common, or two arrays, has no influence on their order. In texts it
cancels on every level by itself; a level never looks from one text's beginning into the other's
end, because the weights of the two beginnings are the same one by one. In arrays it cancels because
every value is equal to itself. So what continues a text or an array comes after it.
-/

namespace DocQuery.Collation

/-- A common beginning cancels on every level. -/
theorem compareLevel_append_left (level : Weight → Nat) (p v w : List Weight) :
    compareLevel level (p ++ v) (p ++ w) = compareLevel level v w := by
  rw [compareLevel, List.map_append, List.map_append, compareLex_append_left, compareLevel]

/-- A common beginning of two lists of characters cancels. -/
theorem compareChars_append_left (p x y : List Char) :
    compareChars (p ++ x) (p ++ y) = compareChars x y := by
  simp only [compareChars, List.map_append, compareLevel_append_left, compareLex_append_left]

/-- A common beginning of two texts cancels. -/
theorem compareText_append_left (p x y : String) :
    compareText (p ++ x) (p ++ y) = compareText x y := by
  rw [compareText_eq_compareChars, String.toList_append, String.toList_append,
    compareChars_append_left, compareText_eq_compareChars]

/-- The empty text comes before all others. -/
theorem compareText_empty {y : String} (h : y ≠ "") : compareText "" y = .lt := by
  have hne : y.toList ≠ [] := by
    intro hnil
    exact h (String.toList_inj.mp hnil)
  obtain ⟨c, rest, hcons⟩ := List.exists_cons_of_ne_nil hne
  rw [compareText_eq_compareChars, hcons, compareChars_eq_then, compareUpToCase]
  rfl

/-- Common first items of two arrays cancel. -/
theorem compareValue_append_left (ps xs ys : List Json) :
    compareValue (.arr (ps ++ xs)) (.arr (ps ++ ys)) = compareValue (.arr xs) (.arr ys) := by
  rw [compareValue_arr, compareLex_append_left, compareValue_arr]

/-- The empty array comes before all others. -/
theorem compareValue_nil {ys : List Json} (h : ys ≠ []) :
    compareValue (.arr []) (.arr ys) = .lt := by
  obtain ⟨y, rest, rfl⟩ := List.exists_cons_of_ne_nil h
  rw [compareValue_arr, List.compareLex_nil_cons]

/-- A common beginning does not influence the order of texts or of arrays, and both come before
what continues them. -/
theorem common_beginnings_cancel :
    (∀ p x y : String, compareText (p ++ x) (p ++ y) = compareText x y) ∧
    (∀ ps xs ys : List Json,
      compareValue (.arr (ps ++ xs)) (.arr (ps ++ ys)) = compareValue (.arr xs) (.arr ys)) ∧
    (∀ p y : String, y ≠ "" → compareText p (p ++ y) = .lt) ∧
    (∀ ps ys : List Json, ys ≠ [] → compareValue (.arr ps) (.arr (ps ++ ys)) = .lt) := by
  refine ⟨compareText_append_left, compareValue_append_left, fun p y hy => ?_, fun ps ys hys => ?_⟩
  · have hcancel := compareText_append_left p "" y
    rw [String.append_empty] at hcancel
    rw [hcancel, compareText_empty hy]
  · have hcancel := compareValue_append_left ps [] ys
    rw [List.append_nil] at hcancel
    rw [hcancel, compareValue_nil hys]

/-- The accent in common does not matter before a letter that differs, and a text comes before its
continuation by a control, which has the least weights. So does an array of an object. -/
theorem common_beginnings_cancel_accented :
    compareText "éa" "éB" = compareText "a" "B" ∧ compareText "É" "É\u0000" = .lt ∧
      compareValue (.arr [.obj [("a", .null)]]) (.arr [.obj [("a", .null)], .null]) = .lt := by
  obtain ⟨htext, -, hlonger, hlongerArray⟩ := common_beginnings_cancel
  refine ⟨htext "é" "a" "B", hlonger "É" "\u0000" (by decide), ?_⟩
  exact hlongerArray [.obj [("a", .null)]] [.null] (List.cons_ne_nil _ _)

end DocQuery.Collation
