import DocQuery.Collation.Weight
import DocQuery.Proofs.Unicode.Classes
import DocQuery.Proofs.Unicode.Lowercase

/-!
# What the weights of characters say

The weights of the characters of ASCII and of the letters of Latin-1 come from tables, which are
looked through here once, code by code. The weight of any other character follows from its lower
case.

The tables cut through the letters: four letters without a place in them have a lower case with
one. They are placed with the other letters, their lower cases with the Latin ones. For the rest
the first two levels of the weight are those of the lower case, and they say which it is.
-/

namespace DocQuery.Collation

open Unicode

/-- Code points are less than `0x110000`. -/
theorem toNat_lt_max (c : Char) : c.toNat < 0x110000 := by
  obtain h | h := c.valid
  · exact Nat.lt_trans h (by decide)
  · exact h.2

/-- Every group of primary weights has room for its characters. -/
theorem bases_apart : blankBase + 0x80 ≤ punctuationBase ∧
    punctuationBase + 32 ≤ symbolBase ∧ symbolBase + 0x110000 ≤ digitBase ∧
    digitBase + 10 ≤ latinBase ∧ latinBase + 26 * 4 ≤ otherBase := by
  decide

/-- The codes of ASCII and of the half of Latin-1 that has the letters. -/
def tabledCodes : List Nat := List.range 0x80 ++ List.range' 0xC0 0x40

/-- The codes beyond the tables are those between ASCII and the letters of Latin-1, and those after
Latin-1. -/
theorem not_mem_tabledCodes_iff {code : Nat} :
    code ∉ tabledCodes ↔ 0x80 ≤ code ∧ code < 0xC0 ∨ 0x100 ≤ code := by
  simp only [tabledCodes, List.mem_append, List.mem_range, List.mem_range'_1]
  omega

/-- The codes within the tables are in Latin-1. -/
theorem lt_of_mem_tabledCodes {code : Nat} (h : code ∈ tabledCodes) : code < 0x100 :=
  Nat.lt_of_not_le fun hle => not_mem_tabledCodes_iff.mpr (.inr hle) h

/-- A character beyond the tables is no letter of Latin-1. -/
theorem latin1Lower?_of_not_tabled {c : Char} (hc : c.toNat ∉ tabledCodes) :
    latin1Lower? c = none := by
  rw [not_mem_tabledCodes_iff] at hc
  simp only [latin1Lower?]
  rw [if_neg (by omega), if_neg (by omega)]

/-- The weight of a character beyond the tables does not come from them. -/
theorem weight_of_not_tabled {c : Char} (hc : c.toNat ∉ tabledCodes) :
    weight c = otherWeight c := by
  rw [weight, latin1?, latin1Lower?_of_not_tabled hc, if_neg]
  · rfl
  · rw [not_mem_tabledCodes_iff] at hc
    omega

/-- The weight of a letter or number beyond the tables comes from its lower case. -/
theorem weight_of_alphanumeric {c : Char} (hc : c.toNat ∉ tabledCodes) (h : isAlphanumeric c) :
    weight c = ⟨otherBase + (toLowerSingle c).toNat, 0, if toLowerSingle c = c then 0 else 1⟩ := by
  rw [weight_of_not_tabled hc, otherWeight, if_pos h]

/-- All other characters beyond the tables are ordered by their codes. -/
theorem weight_of_not_alphanumeric {c : Char} (hc : c.toNat ∉ tabledCodes)
    (h : ¬isAlphanumeric c) : weight c = ⟨symbolBase + c.toNat, 0, 0⟩ := by
  rw [weight_of_not_tabled hc, otherWeight, if_neg h]

/-- A character that is neither a letter nor a number is its own lower case. -/
theorem toLowerSingle_of_not_alphanumeric {c : Char} (h : ¬isAlphanumeric c) :
    toLowerSingle c = c :=
  Decidable.byContradiction fun hne =>
    h (isAlphanumeric_of_isAlphabetic (isAlphabetic_of_toLowerSingle_ne hne))

/-- The letters whose lower case is placed apart from them, with the Latin letters: the capital y
with diaeresis, the capital sharp s, the Kelvin sign and the Ångström sign. -/
def strays : List Char := ['\u0178', '\u1e9e', '\u212a', '\u212b']

/-- The lower case of a character, unless it is placed apart from it. -/
def fold (c : Char) : Char := if c ∈ strays then c else toLowerSingle c

/-- The strays have their lower case in the tables. Any other run is within the tables, or its
lower cases are beyond them. -/
theorem tables_of_strays :
    (strays.all fun s =>
      decide (s.toNat ∉ tabledCodes) && decide ((toLowerSingle s).toNat ∈ tabledCodes)) ∧
    caseRuns.all fun r =>
      r.last.blt 0x80 || Nat.ble 0xC0 r.first && r.last.blt 0x100 || Nat.ble 0x100 r.lower ||
        r.first == r.last && strays.any (·.toNat == r.first) := by
  decide +kernel

/-- The strays are the characters beyond the tables that have their lower case within. -/
theorem mem_strays_iff {c : Char} :
    c ∈ strays ↔ c.toNat ∉ tabledCodes ∧ (toLowerSingle c).toNat ∈ tabledCodes := by
  refine ⟨fun hc => ?_, fun ⟨hc, htabled⟩ => ?_⟩
  · have hstray := List.all_eq_true.mp tables_of_strays.1 c hc
    simpa using hstray
  obtain hself | ⟨r, hr, hcontains, hlower⟩ := toLowerSingle_cases c
  · exact absurd (hself ▸ htabled) hc
  have hspan := (CaseRun.contains_iff.mp hcontains).1
  have hsmall := lt_of_mem_tabledCodes htabled
  have hrun := List.all_eq_true.mp tables_of_strays.2 r hr
  simp only [Bool.or_eq_true, Bool.and_eq_true, Nat.blt_eq, Nat.ble_eq, beq_iff_eq,
    List.any_eq_true] at hrun
  rw [not_mem_tabledCodes_iff] at hc
  obtain ((hascii | hlatin) | hbeyond) | ⟨hone, s, hs, hcode⟩ := hrun
  · omega
  · omega
  · omega
  · have hsc : s = c := Char.toNat_inj.mp (by omega)
    exact hsc ▸ hs

/-- A character within the tables is folded to its lower case. -/
theorem fold_of_tabled {c : Char} (hc : c.toNat ∈ tabledCodes) : fold c = toLowerSingle c :=
  if_neg fun hstray => (mem_strays_iff.mp hstray).1 hc

/-- A character that is neither a letter nor a number is not folded. -/
theorem fold_of_not_alphanumeric {c : Char} (h : ¬isAlphanumeric c) : fold c = c := by
  rw [fold, toLowerSingle_of_not_alphanumeric h, ite_self]

/-- The lower-case Latin letters, with the sign between them. -/
def latinLetters : List Char := (List.range' 0x61 26 ++ List.range' 0xDF 33).map Char.ofNat

/-- The character, up to case, with a given primary and secondary weight. -/
def charOf (primary secondary : Nat) : Char :=
  if primary < punctuationBase then Char.ofNat (primary - blankBase)
  else if primary < symbolBase then punctuation.getD (primary - punctuationBase) default
  else if primary < digitBase then Char.ofNat (primary - symbolBase)
  else if primary < latinBase then Char.ofNat ('0'.toNat + (primary - digitBase))
  else if primary < otherBase then
    (latinLetters.find? fun l => weight l == ⟨primary, secondary, 0⟩).getD default
  else
    (strays.find? fun s => otherBase + (toLowerSingle s).toNat == primary).getD
      (Char.ofNat (primary - otherBase))

/-- What holds of all tabled characters is checked code by code. -/
@[elab_as_elim]
theorem forall_tabled {P : Char → Prop} (c : Char) (hc : c.toNat ∈ tabledCodes)
    (h : ∀ code ∈ tabledCodes, P (Char.ofNat code)) : P c :=
  Char.ofNat_toNat c ▸ h c.toNat hc

/-- The weight of a tabled character is that of its lower case but for the tertiary level, it is
less than those of the other letters, and the first two levels tell the lower case. -/
theorem tables_of_weights {c : Char} (hc : c.toNat ∈ tabledCodes) :
    weight c = ⟨(weight (fold c)).primary, (weight (fold c)).secondary,
      if toLowerSingle c = c then 0 else 1⟩ ∧
    (weight c).primary < otherBase ∧
    charOf (weight c).primary (weight c).secondary = fold c := by
  rw [fold_of_tabled hc, toLowerSingle_of_lt (lt_of_mem_tabledCodes hc)]
  refine forall_tabled c hc ?_
  decide +kernel

/-- The weight of a character is that of its lower case but for the tertiary level, which tells
whether it is its lower case itself. -/
theorem weight_eq_fold (c : Char) :
    weight c = ⟨(weight (fold c)).primary, (weight (fold c)).secondary,
      if toLowerSingle c = c then 0 else 1⟩ := by
  by_cases hc : c.toNat ∈ tabledCodes
  · exact (tables_of_weights hc).1
  by_cases halnum : isAlphanumeric c
  · by_cases hstray : c ∈ strays
    · rw [fold, if_pos hstray, weight_of_alphanumeric hc halnum]
    · by_cases hself : toLowerSingle c = c
      · rw [fold, if_neg hstray, hself, weight_of_alphanumeric hc halnum, hself]
      · have hlower : isAlphanumeric (toLowerSingle c) :=
          isAlphanumeric_of_isAlphabetic (isAlphabetic_toLowerSingle hself)
        have hbeyond : (toLowerSingle c).toNat ∉ tabledCodes :=
          fun htabled => hstray (mem_strays_iff.mpr ⟨hc, htabled⟩)
        rw [fold, if_neg hstray, weight_of_alphanumeric hc halnum,
          weight_of_alphanumeric hbeyond hlower, toLowerSingle_toLowerSingle]
  · rw [fold_of_not_alphanumeric halnum, weight_of_not_alphanumeric hc halnum,
      toLowerSingle_of_not_alphanumeric halnum, if_pos rfl]

/-- The primary weight of a letter beyond the tables gives back the letter, folded. -/
theorem charOf_otherBase_add {c : Char} (hc : c.toNat ∉ tabledCodes) :
    charOf (otherBase + (toLowerSingle c).toNat) 0 = fold c := by
  have hbases := bases_apart
  rw [charOf, if_neg (by omega), if_neg (by omega), if_neg (by omega), if_neg (by omega),
    if_neg (by omega)]
  by_cases hstray : c ∈ strays
  · have hfind : strays.all fun s => strays.find? (fun s' => otherBase + (toLowerSingle s').toNat ==
        otherBase + (toLowerSingle s).toNat) == some s := by decide +kernel
    rw [beq_iff_eq.mp (List.all_eq_true.mp hfind c hstray), Option.getD_some, fold, if_pos hstray]
  · have hnone : strays.find? (fun s => otherBase + (toLowerSingle s).toNat ==
        otherBase + (toLowerSingle c).toNat) = none := by
      refine List.find?_eq_none.mpr fun s hs heq => hstray (mem_strays_iff.mpr ⟨hc, ?_⟩)
      rw [beq_iff_eq, Nat.add_left_cancel_iff] at heq
      exact heq ▸ (mem_strays_iff.mp hs).2
    rw [hnone, Option.getD_none, Nat.add_sub_cancel_left, Char.ofNat_toNat, fold, if_neg hstray]

/-- The primary weight of a symbol beyond the tables gives back the symbol. -/
theorem charOf_symbolBase_add (c : Char) : charOf (symbolBase + c.toNat) 0 = c := by
  have hbases := bases_apart
  have hmax := toNat_lt_max c
  rw [charOf, if_neg (by omega), if_neg (by omega), if_pos (by omega), Nat.add_sub_cancel_left,
    Char.ofNat_toNat]

/-- The first two levels of its weight tell a character up to its case. -/
theorem charOf_weight (c : Char) : charOf (weight c).primary (weight c).secondary = fold c := by
  by_cases hc : c.toNat ∈ tabledCodes
  · exact (tables_of_weights hc).2.2
  by_cases halnum : isAlphanumeric c
  · rw [weight_of_alphanumeric hc halnum, charOf_otherBase_add hc]
  · rw [weight_of_not_alphanumeric hc halnum, charOf_symbolBase_add,
      fold_of_not_alphanumeric halnum]

/-- Two characters have the same weight on the first two levels exactly if they are the same up
to case. -/
theorem weight_eq_iff_fold_eq {c d : Char} :
    (weight c).primary = (weight d).primary ∧ (weight c).secondary = (weight d).secondary ↔
      fold c = fold d := by
  refine ⟨fun ⟨hprimary, hsecondary⟩ => ?_, fun h => ?_⟩
  · rw [← charOf_weight c, ← charOf_weight d, hprimary, hsecondary]
  · rw [weight_eq_fold c, weight_eq_fold d, h]
    exact ⟨rfl, rfl⟩

end DocQuery.Collation
