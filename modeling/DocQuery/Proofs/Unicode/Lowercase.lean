import DocQuery.Proofs.Unicode.Ranges
import DocQuery.Unicode.Classes
import DocQuery.Unicode.Lowercase

/-!
# Lower case is a projection of letters

Three tables have to fit together: the runs of characters with a lower case, their lower cases,
and the alphabetic ranges. They are compared as sets of code points, so that the laws below hold
of every character: what has a lower case is a letter, its lower case is a letter, and the lower
case of a lower case is itself.
-/

namespace DocQuery.Unicode

open CodeRange

namespace CaseRun

/-- How far the characters of a run are from the first one. -/
def steps (r : CaseRun) : List Nat :=
  (List.range ((r.last - r.first) / r.stride + 1)).map (r.stride * ·)

/-- The characters of a run, one by one. -/
def uppers (r : CaseRun) : List CodeRange :=
  r.steps.map fun step => ⟨r.first + step, r.first + step⟩

/-- The lower cases of a run, one by one. -/
def lowers (r : CaseRun) : List CodeRange :=
  r.steps.map fun step => ⟨r.lower + step, r.lower + step⟩

variable {r : CaseRun} {code : Nat}

/-- A run has every code point between its ends that its stride comes to. -/
theorem contains_iff : r.contains code ↔
    (r.first ≤ code ∧ code ≤ r.last) ∧ (code - r.first) % r.stride = 0 := by
  simp only [contains, Bool.and_eq_true, decide_eq_true_eq, beq_iff_eq]

/-- The distance of a member from the first one is a step of the run. -/
theorem mem_steps (h : r.contains code) : code - r.first ∈ r.steps := by
  obtain ⟨hspan, hstride⟩ := contains_iff.mp h
  have hle : (code - r.first) / r.stride ≤ (r.last - r.first) / r.stride :=
    Nat.div_le_div_right (Nat.sub_le_sub_right hspan.2 _)
  exact List.mem_map.mpr ⟨_, List.mem_range.mpr (Nat.lt_succ_of_le hle),
    Nat.mul_div_cancel' (Nat.dvd_of_mod_eq_zero hstride)⟩

/-- The members of a run are among those listed one by one. -/
theorem anyHas_uppers (h : r.contains code) : anyHas r.uppers code := by
  refine anyHas_iff.mpr ⟨_, List.mem_map_of_mem (mem_steps h), ?_⟩
  have hspan := (contains_iff.mp h).1
  rw [CodeRange.contains_iff]
  dsimp only
  omega

/-- The lower cases of a run are among those listed one by one. -/
theorem anyHas_lowers (h : r.contains code) : anyHas r.lowers (r.lower + (code - r.first)) :=
  anyHas_iff.mpr ⟨_, List.mem_map_of_mem (mem_steps h),
    CodeRange.contains_iff.mpr ⟨Nat.le_refl _, Nat.le_refl _⟩⟩

end CaseRun

/-- The characters with a lower case. -/
def uppers : List CodeRange := caseRuns.flatMap CaseRun.uppers

/-- The lower cases of others. -/
def lowers : List CodeRange := caseRuns.flatMap CaseRun.lowers

/-- Letters with a lower case and lower cases are alphabetic, they are different letters, and no
surrogates are among them. -/
theorem tables_of_case :
    maskOf uppers &&& maskOf alphabeticRanges = maskOf uppers ∧
    maskOf lowers &&& maskOf alphabeticRanges = maskOf lowers ∧
    maskOf lowers &&& maskOf uppers = 0 ∧
    maskOf lowers &&& maskOf [⟨0, 0xD7FF⟩, ⟨0xE000, 0x10FFFF⟩] = maskOf lowers := by
  decide +kernel

variable {r : CaseRun} {code : Nat}

private theorem anyHas_flatMap {f : CaseRun → List CodeRange} (hr : r ∈ caseRuns)
    (h : anyHas (f r) code) : anyHas (caseRuns.flatMap f) code := by
  obtain ⟨s, hs, hcode⟩ := anyHas_iff.mp h
  exact anyHas_iff.mpr ⟨s, List.mem_flatMap.mpr ⟨r, hr, hs⟩, hcode⟩

/-- Lower cases are code points of characters. -/
theorem isValidChar_of_lowers (h : anyHas lowers code) : code.isValidChar := by
  have hvalid := anyHas_of_subset tables_of_case.2.2.2 h
  simp only [anyHas, List.any_cons, List.any_nil, Bool.or_false, Bool.or_eq_true,
    CodeRange.contains_iff] at hvalid
  simp only [Nat.isValidChar]
  omega

/-- A character has no lower case, or one of the runs says which. -/
theorem toLowerSingle_cases (c : Char) :
    toLowerSingle c = c ∨ ∃ r ∈ caseRuns, r.contains c.toNat ∧
      (toLowerSingle c).toNat = r.lower + (c.toNat - r.first) := by
  unfold toLowerSingle
  split
  case h_2 => exact .inl rfl
  case h_1 r hfind =>
    have hr := List.mem_of_find?_eq_some hfind
    have hc : r.contains c.toNat := by simpa using List.find?_some hfind
    have hvalid := isValidChar_of_lowers (anyHas_flatMap hr (CaseRun.anyHas_lowers hc))
    exact .inr ⟨r, hr, hc, by rw [Char.ofNat, dif_pos hvalid]; rfl⟩

/-- A character with a lower case is one of the table, and so is its lower case. -/
theorem anyHas_of_toLowerSingle_ne {c : Char} (h : toLowerSingle c ≠ c) :
    anyHas uppers c.toNat ∧ anyHas lowers (toLowerSingle c).toNat := by
  obtain hself | ⟨r, hr, hc, hlower⟩ := toLowerSingle_cases c
  · exact absurd hself h
  · rw [hlower]
    exact ⟨anyHas_flatMap hr (CaseRun.anyHas_uppers hc),
      anyHas_flatMap hr (CaseRun.anyHas_lowers hc)⟩

/-- A character with a lower case is a letter. -/
theorem isAlphabetic_of_toLowerSingle_ne {c : Char} (h : toLowerSingle c ≠ c) : isAlphabetic c :=
  anyHas_of_subset tables_of_case.1 (anyHas_of_toLowerSingle_ne h).1

/-- The lower case of a character that has one is a letter. -/
theorem isAlphabetic_toLowerSingle {c : Char} (h : toLowerSingle c ≠ c) :
    isAlphabetic (toLowerSingle c) :=
  anyHas_of_subset tables_of_case.2.1 (anyHas_of_toLowerSingle_ne h).2

/-- The lower case of a lower case is itself. -/
theorem toLowerSingle_toLowerSingle (c : Char) :
    toLowerSingle (toLowerSingle c) = toLowerSingle c := by
  by_cases hself : toLowerSingle c = c
  · rw [hself, hself]
  · refine Decidable.byContradiction fun hne => ?_
    have hupper := (anyHas_of_toLowerSingle_ne hne).1
    have hlower := (anyHas_of_toLowerSingle_ne hself).2
    exact Bool.false_ne_true
      ((not_anyHas_of_disjoint tables_of_case.2.2.1 hlower).symm.trans hupper)

/-- The code of the lower case of a Latin-1 character, within Latin-1. -/
def latinLowerCode (code : Nat) : Nat :=
  if 0x41 ≤ code ∧ code ≤ 0x5A ∨ 0xC0 ≤ code ∧ code ≤ 0xDE ∧ code ≠ 0xD7 then code + 0x20
  else code

/-- The first three runs are those of Latin-1. -/
theorem caseRuns_of_latin : ((caseRuns.drop 3).all fun r => Nat.ble 0x100 r.first) ∧
    ∀ code < 0x100, ((caseRuns.take 3).find? fun r => r.contains code).elim code
      (fun r => r.lower + (code - r.first)) = latinLowerCode code := by
  decide +kernel

/-- The lower case of a Latin-1 character is known from its code. -/
theorem toLowerSingle_of_lt {c : Char} (hc : c.toNat < 0x100) :
    toLowerSingle c = Char.ofNat (latinLowerCode c.toNat) := by
  have hdrop : (caseRuns.drop 3).find? (fun r => r.contains c.toNat) = none := by
    refine List.find?_eq_none.mpr fun r hr hcontains => ?_
    have hfirst := List.all_eq_true.mp caseRuns_of_latin.1 r hr
    have hspan := (CaseRun.contains_iff.mp hcontains).1
    rw [Nat.ble_eq] at hfirst
    omega
  have hfind : caseRuns.find? (fun r => r.contains c.toNat) =
      (caseRuns.take 3).find? fun r => r.contains c.toNat :=
    calc caseRuns.find? (fun r => r.contains c.toNat)
      _ = (caseRuns.take 3 ++ caseRuns.drop 3).find? (fun r => r.contains c.toNat) := by
        rw [List.take_append_drop]
      _ = (caseRuns.take 3).find? fun r => r.contains c.toNat := by
        rw [List.find?_append, hdrop, Option.or_none]
  rw [← caseRuns_of_latin.2 c.toNat hc, toLowerSingle, hfind]
  cases (caseRuns.take 3).find? fun r => r.contains c.toNat with
  | none => exact (Char.ofNat_toNat c).symm
  | some r => rfl

end DocQuery.Unicode
