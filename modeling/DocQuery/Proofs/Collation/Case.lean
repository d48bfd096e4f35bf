import DocQuery.Proofs.Collation.Levels
import DocQuery.Proofs.Collation.Weight

/-!
# Case breaks ties between texts

Texts are first compared as if all their letters were lower case. Only texts that agree so are
told apart by case, and there the lower case comes first.

Four letters are an exception: their weights put them after all Latin letters, although their
lower cases are Latin letters. They count as letters without case below.
-/

namespace DocQuery.Collation

open Unicode

/-- Whether a character is its own lower case. -/
def isLower (c : Char) : Bool := toLowerSingle c == c

/-- A text in lower case, as far as this has a single character. -/
def lowerText (s : String) : String := String.ofList (s.toList.map toLowerSingle)

/-- A text in lower case, but for the letters that are placed apart from their lower case. -/
def foldText (s : String) : String := String.ofList (s.toList.map fold)

/-- Whether one text has the lower case at the first position where two texts differ in case. -/
def LowerFirst (a b : String) : Prop :=
  ∃ p q l u x y, a.toList = p ++ l :: x ∧ b.toList = q ++ u :: y ∧
    p.map isLower = q.map isLower ∧ isLower l = true ∧ isLower u = false

variable {a b : List Char}

/-- The characters of a folded text are those of the text, each of them folded. -/
theorem toList_foldText (s : String) : (foldText s).toList = s.toList.map fold :=
  String.toList_ofList

/-- The tertiary weight tells lower-case letters from all other characters. -/
theorem tertiary_weight (c : Char) : (weight c).tertiary = if isLower c then 0 else 1 := by
  rw [weight_eq_fold, isLower]
  simp only [beq_iff_eq]

/-- Folding does not change the order up to case. -/
theorem compareUpToCase_fold : compareUpToCase (a.map fold) (b.map fold) = compareUpToCase a b := by
  have hprimary : ∀ c, (weight (fold c)).primary = (weight c).primary := fun c => by
    rw [weight_eq_fold c]
  have hsecondary : ∀ c, (weight (fold c)).secondary = (weight c).secondary := fun c => by
    rw [weight_eq_fold c]
  rw [compareUpToCase, compareLevel_map hprimary, compareLevel_map hsecondary]
  rfl

/-- The first two levels tell all texts apart that differ by more than case. -/
theorem compareUpToCase_eq_iff : compareUpToCase a b = .eq ↔ a.map fold = b.map fold := by
  rw [compareUpToCase, Ordering.then_eq_eq, compareLevel_eq_iff, compareLevel_eq_iff]
  induction a generalizing b with
  | nil => cases b <;> simp
  | cons c a ih =>
    cases b with
    | nil => simp
    | cons d b =>
      simp only [List.map_cons, List.cons.injEq, ← ih, ← weight_eq_iff_fold_eq]
      exact and_and_and_comm

/-- Texts that differ by more than case are compared as if they had none. -/
theorem compareText_foldText {a b : String} (hne : foldText a ≠ foldText b) :
    compareText a b = compareText (foldText a) (foldText b) := by
  have hup : compareUpToCase a.toList b.toList ≠ .eq := fun h =>
    hne (congrArg String.ofList (compareUpToCase_eq_iff.mp h))
  have hfold : compareUpToCase (a.toList.map fold) (b.toList.map fold) ≠ .eq := by
    rwa [compareUpToCase_fold]
  rw [compareText_eq_compareChars, compareText_eq_compareChars, toList_foldText, toList_foldText,
    compareChars_of_upToCase_ne hup, compareChars_of_upToCase_ne hfold, compareUpToCase_fold]

/-- Of texts that differ in case only, the one with the first lower case comes first. -/
theorem compareText_of_lowerFirst {a b : String} (heq : foldText a = foldText b)
    (h : LowerFirst a b) : compareText a b = .lt := by
  obtain ⟨p, q, l, u, x, y, ha, hb, hsame, hl, hu⟩ := h
  have hfold : (p ++ l :: x).map fold = (q ++ u :: y).map fold := by
    rw [← ha, ← hb, ← toList_foldText, ← toList_foldText, heq]
  have htertiary : Weight.tertiary ∘ weight = (fun lower => if lower then 0 else 1) ∘ isLower :=
    funext tertiary_weight
  rw [compareText_eq_compareChars, ha, hb]
  refine compareChars_of_tertiary_lt (compareUpToCase_eq_iff.mpr hfold) ?_ ?_
  · rw [List.map_map, List.map_map, htertiary, ← List.map_map, ← List.map_map, hsame]
  · rw [tertiary_weight, tertiary_weight, hl, hu]
    decide

/-- Texts that differ by more than case are compared as if they had none, and of texts that
differ in case only the one with the first lower case comes first. Four letters aside, to have no
case is to be in lower case. -/
theorem texts_up_to_case (a b : String) :
    (foldText a ≠ foldText b → compareText a b = compareText (foldText a) (foldText b)) ∧
    (foldText a = foldText b → LowerFirst a b → compareText a b = .lt) ∧
    ((∀ c ∈ a.toList, c ∉ strays) → foldText a = lowerText a) := by
  refine ⟨compareText_foldText, compareText_of_lowerFirst, fun hstrays => ?_⟩
  refine congrArg String.ofList (List.map_congr_left fun c hc => ?_)
  rw [fold, if_neg (hstrays c hc)]

/-- `ÉTÉ` is after `étau` as `été` is, and after `éTÉ`, which has the first lower case. -/
theorem texts_up_to_case_accented :
    compareText "ÉTÉ" "étau" = .gt ∧ compareText "éTÉ" "ÉTÉ" = .lt := by
  refine ⟨((texts_up_to_case "ÉTÉ" "étau").1 (by decide +kernel)).trans (by decide +kernel),
    (texts_up_to_case "éTÉ" "ÉTÉ").2.1 (by decide +kernel)
      ⟨[], [], 'é', 'É', ['T', 'É'], ['T', 'É'], ?_⟩⟩
  decide +kernel

/-- The letters that are placed apart from their lower case come after all characters of ASCII and
all letters of Latin-1, among which their lower cases are. -/
theorem compareText_stray (p x y : String) {c s : Char} (hc : c.toNat ∈ tabledCodes)
    (hs : s ∈ strays) :
    compareText (p ++ String.singleton c ++ x) (p ++ String.singleton s ++ y) = .lt := by
  have hbeyond := (mem_strays_iff.mp hs).1
  have halnum : isAlphanumeric s := Decidable.byContradiction fun h => hbeyond <| by
    rw [← toLowerSingle_of_not_alphanumeric h]
    exact (mem_strays_iff.mp hs).2
  refine compareText_of_primary_lt p x y ?_
  rw [weight_of_alphanumeric hbeyond halnum]
  exact Nat.lt_add_right _ (tables_of_weights hc).2.1

/-- `Ÿ` is after `z`, although its lower case `ÿ` is before it. -/
theorem stray_letter_apart_from_lower_case :
    lowerText "Ÿ" ≠ lowerText "z" ∧ compareText "Ÿ" "z" = .gt ∧
      compareText (lowerText "Ÿ") (lowerText "z") = .lt := by
  decide +kernel

end DocQuery.Collation
