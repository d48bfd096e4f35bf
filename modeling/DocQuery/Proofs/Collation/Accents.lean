import DocQuery.Proofs.Collation.Case

/-!
# Accents break ties between texts

Texts are first compared as if no letter of Latin-1 had an accent. An accent counts only where the
letters agree over the whole texts, so it never outweighs a difference of letters, however far
behind it this is. For the primary level does not see accents, but it tells apart all characters
that differ by more than accent and case.
-/

namespace DocQuery.Collation

open Unicode

/-- A letter without the accent that the secondary level sees on it, in the case it has. -/
def unaccented (c : Char) : Char :=
  match latin1Lower? c with
  | none => c
  | some (lower, isLower) =>
    match accented? lower with
    | none => c
    | some (base, _) => if isLower then base else base.toUpper

/-- A text without the accents on its letters of Latin-1. -/
def unaccentedText (s : String) : String := String.ofList (s.toList.map unaccented)

/-- The characters of a text without accents are those of the text without theirs. -/
theorem toList_unaccentedText (s : String) :
    (unaccentedText s).toList = s.toList.map unaccented :=
  String.toList_ofList

/-- No letter beyond the tables is seen with an accent. -/
theorem secondary_of_not_tabled {c : Char} (hc : c.toNat ∉ tabledCodes) :
    (weight c).secondary = 0 := by
  rw [weight_of_not_tabled hc, otherWeight]
  split <;> rfl

/-- A character beyond the tables has no accent to lose. -/
theorem unaccented_of_not_tabled {c : Char} (hc : c.toNat ∉ tabledCodes) : unaccented c = c := by
  rw [unaccented, latin1Lower?_of_not_tabled hc]

/-- The tabled letters with an accent have the weights of others, but for the secondary level. -/
theorem tables_of_accents {c : Char} (hc : c.toNat ∈ tabledCodes) :
    weight (unaccented c) = ⟨(weight c).primary, 0, (weight c).tertiary⟩ ∧
    (unaccented c = c ↔ (weight c).secondary = 0) := by
  refine forall_tabled c hc ?_
  decide +kernel

/-- Without its accent a letter has the same weight, but for the secondary level. -/
theorem weight_unaccented (c : Char) :
    weight (unaccented c) = ⟨(weight c).primary, 0, (weight c).tertiary⟩ := by
  by_cases hc : c.toNat ∈ tabledCodes
  · exact (tables_of_accents hc).1
  · rw [unaccented_of_not_tabled hc, ← secondary_of_not_tabled hc]

/-- The letters with an accent are those with a secondary weight. -/
theorem unaccented_eq_self_iff (c : Char) : unaccented c = c ↔ (weight c).secondary = 0 := by
  by_cases hc : c.toNat ∈ tabledCodes
  · exact (tables_of_accents hc).2
  · exact iff_of_true (unaccented_of_not_tabled hc) (secondary_of_not_tabled hc)

/-- A folded character has the lower case of the character. -/
theorem toLowerSingle_fold (c : Char) : toLowerSingle (fold c) = toLowerSingle c := by
  rw [fold]
  split
  · rfl
  · exact toLowerSingle_toLowerSingle c

/-- The primary weight says which letter it is, without its accent and in lower case. -/
theorem toLowerSingle_unaccented (c : Char) :
    toLowerSingle (unaccented c) = toLowerSingle (charOf (weight c).primary 0) := by
  have hfold := charOf_weight (unaccented c)
  rw [weight_unaccented] at hfold
  rw [hfold, toLowerSingle_fold]

/-- Texts that agree on the primary level differ by accents and case only. -/
theorem lowerText_unaccentedText_eq {a b : String}
    (h : (a.toList.map weight).map Weight.primary = (b.toList.map weight).map Weight.primary) :
    lowerText (unaccentedText a) = lowerText (unaccentedText b) := by
  have hlower (s : String) : (unaccentedText s).toList.map toLowerSingle =
      ((s.toList.map weight).map Weight.primary).map fun primary =>
        toLowerSingle (charOf primary 0) := by
    rw [toList_unaccentedText, List.map_map, List.map_map, List.map_map]
    exact List.map_congr_left fun c _ => toLowerSingle_unaccented c
  rw [lowerText, lowerText, hlower a, hlower b, h]

/-- The primary level takes no notice of accents. -/
theorem compareLevel_primary_unaccented (a b : List Char) :
    compareLevel Weight.primary ((a.map unaccented).map weight) ((b.map unaccented).map weight) =
      compareLevel Weight.primary (a.map weight) (b.map weight) := by
  refine compareLevel_map (fun c => ?_) a b
  rw [weight_unaccented]

/-- Texts that differ by more than accents and case are compared as if no letter had an accent. The
letters with an accent are those with a secondary weight; without it their other weights are the
same. -/
theorem texts_up_to_accents :
    (∀ c, weight (unaccented c) = ⟨(weight c).primary, 0, (weight c).tertiary⟩ ∧
      (unaccented c = c ↔ (weight c).secondary = 0)) ∧
    ∀ a b : String, lowerText (unaccentedText a) ≠ lowerText (unaccentedText b) →
      compareText a b = compareText (unaccentedText a) (unaccentedText b) := by
  refine ⟨fun c => ⟨weight_unaccented c, unaccented_eq_self_iff c⟩, fun a b hne => ?_⟩
  have hprimary :
      compareLevel Weight.primary (a.toList.map weight) (b.toList.map weight) ≠ .eq := by
    intro heq
    exact hne (lowerText_unaccentedText_eq (compareLevel_eq_iff.mp heq))
  have hplain := hprimary
  rw [← compareLevel_primary_unaccented] at hplain
  rw [compareText_eq_compareChars, compareText_eq_compareChars, toList_unaccentedText,
    toList_unaccentedText, compareChars_of_primary_ne hprimary, compareChars_of_primary_ne hplain,
    compareLevel_primary_unaccented]

/-- The digits decide between `éÀ1` and `eA2`, and the last letters between `Øx` and `oy`, although
the accents before them would decide otherwise. -/
theorem texts_up_to_accents_early :
    compareText "éÀ1" "eA2" = .lt ∧ compareText "Øx" "oy" = .lt := by
  refine ⟨(texts_up_to_accents.2 _ _ ?_).trans ?_, (texts_up_to_accents.2 _ _ ?_).trans ?_⟩ <;>
    decide +kernel

end DocQuery.Collation
