import DocQuery.Proofs.Collation.Levels
import DocQuery.Proofs.Collation.Weight

/-!
# Groups of characters order texts

Texts are ordered by the groups of their characters: blanks, then punctuation and symbols, then
digits, then letters. The weights know the blanks and digits of ASCII only. Beyond it blanks are
placed with the symbols, and digits and other numbers with the letters; all other characters have
their place.
-/

namespace DocQuery.Collation

open Unicode

/-- The groups of characters, in order. -/
inductive Group where
  | blank
  | symbol
  | digit
  | letter
  deriving DecidableEq, Repr

namespace Group

/-- The place of a group among the groups. -/
def rank : Group → Nat
  | blank => 0
  | symbol => 1
  | digit => 2
  | letter => 3

instance : LT Group := ⟨fun g h => g.rank < h.rank⟩

instance (g h : Group) : Decidable (g < h) := inferInstanceAs (Decidable (g.rank < h.rank))

/-- Whether a character belongs to a group. Controls belong to none. -/
def has : Group → Char → Bool
  | blank, c => isBlank c
  | symbol, c => isAsciiPunctuation c ||
      Nat.ble 0x80 c.toNat && !(isBlank c || isDecimalDigit c || isAlphabetic c)
  | digit, c => isDecimalDigit c
  | letter, c => isAlphabetic c

end Group

/-- The group that the primary level places a weight in. -/
def Weight.group (w : Weight) : Group :=
  if w.primary < punctuationBase then .blank
  else if w.primary < digitBase then .symbol
  else if w.primary < latinBase then .digit
  else .letter

/-- A weight of an earlier group has the smaller primary weight. -/
theorem Weight.primary_lt_of_group_lt {v w : Weight} (h : v.group < w.group) :
    v.primary < w.primary := by
  refine Nat.lt_of_not_le fun hle => Nat.not_le.mpr h ?_
  have hbases := bases_apart
  unfold group
  repeat' split
  all_goals first | decide | omega

/-- The group of others that a character is placed with by its weight: beyond ASCII blanks are
placed with the symbols, digits and other numbers that are no letters with the letters. -/
def movedTo? (c : Char) : Option Group :=
  if c.toNat < 0x80 then none
  else if isBlank c then some .symbol
  else if isDecimalDigit c || isNumeric c && !isAlphabetic c then some .letter
  else none

/-- What is moved is a blank or a number. -/
theorem movedTo?_cases {c : Char} {k : Group} (h : movedTo? c = some k) :
    isBlank c ∧ k = .symbol ∨ isNumeric c ∧ k = .letter := by
  unfold movedTo? at h
  split at h
  case isTrue => contradiction
  split at h
  case isTrue hblank => exact .inl ⟨hblank, (Option.some.inj h).symm⟩
  split at h
  case isTrue hnumber =>
    rw [Bool.or_eq_true, Bool.and_eq_true] at hnumber
    exact .inr ⟨hnumber.elim isNumeric_of_isDecimalDigit And.left, (Option.some.inj h).symm⟩
  case isFalse => contradiction

/-- No tabled character is moved, and each is placed in its group. ASCII symbols are placed before
all others. -/
theorem tables_of_groups {c : Char} (hc : c.toNat ∈ tabledCodes) :
    movedTo? c = none ∧
    (isBlank c → (weight c).group = .blank) ∧
    (Group.symbol.has c →
      (weight c).group = .symbol ∧ (c.toNat < 0x80 → (weight c).primary < symbolBase)) ∧
    (isDecimalDigit c → (weight c).group = .digit) ∧
    (isAlphabetic c → (weight c).group = .letter) := by
  obtain ⟨halphabetic, hnumeric, hdigit⟩ := classes_of_lt (lt_of_mem_tabledCodes hc)
  rw [movedTo?, Group.has, halphabetic, hnumeric, hdigit]
  refine forall_tabled c hc ?_
  decide +kernel

/-- A character within the tables has a weight of its own group. -/
theorem group_weight_of_tabled {g : Group} {c : Char} (hc : c.toNat ∈ tabledCodes)
    (h : g.has c) : (weight c).group = g := by
  obtain ⟨-, hblank, hsymbol, hdigit, hletter⟩ := tables_of_groups hc
  cases g with
  | blank => exact hblank h
  | symbol => exact (hsymbol h).1
  | digit => exact hdigit h
  | letter => exact hletter h

/-- A letter or number beyond the tables has the weight of a letter. -/
theorem group_weight_of_alphanumeric {c : Char} (hc : c.toNat ∉ tabledCodes)
    (h : isAlphanumeric c) : (weight c).group = .letter := by
  have hbases := bases_apart
  rw [weight_of_alphanumeric hc h, Weight.group, if_neg (by simp only; omega),
    if_neg (by simp only; omega), if_neg (by simp only; omega)]

/-- Any other character beyond the tables has the weight of a symbol. -/
theorem group_weight_of_not_alphanumeric {c : Char} (hc : c.toNat ∉ tabledCodes)
    (h : ¬isAlphanumeric c) : (weight c).group = .symbol := by
  have hbases := bases_apart
  have hmax := toNat_lt_max c
  rw [weight_of_not_alphanumeric hc h, Weight.group, if_neg (by simp only; omega),
    if_pos (by simp only; omega)]

/-- Beyond ASCII a symbol is what is in no other group. -/
theorem Group.has_symbol_of_le {c : Char} (hc : 0x80 ≤ c.toNat) (h : Group.symbol.has c) :
    ¬isBlank c ∧ ¬isDecimalDigit c ∧ ¬isAlphabetic c := by
  have hpunctuation : ¬isAsciiPunctuation c := fun hascii =>
    Nat.not_lt.mpr hc (lt_of_isAsciiPunctuation hascii)
  simpa [has, hpunctuation, hc, and_assoc] using h

/-- A character beyond the tables has a weight of its own group, unless it is moved to another. -/
theorem group_weight_of_not_tabled {g : Group} {c : Char} (hc : c.toNat ∉ tabledCodes)
    (h : g.has c) : (weight c).group = (movedTo? c).getD g := by
  have hle : 0x80 ≤ c.toNat := by
    rw [not_mem_tabledCodes_iff] at hc
    omega
  rw [movedTo?, if_neg (Nat.not_lt.mpr hle)]
  cases g with
  | blank =>
    have hblank : isBlank c := h
    rw [group_weight_of_not_alphanumeric hc (not_isAlphanumeric_of_isBlank hblank), if_pos hblank,
      Option.getD_some]
  | symbol =>
    obtain ⟨hblank, hdigit, halphabetic⟩ := Group.has_symbol_of_le hle h
    rw [if_neg hblank]
    by_cases hnumeric : isNumeric c
    · rw [group_weight_of_alphanumeric hc (isAlphanumeric_of_isNumeric hnumeric),
        if_pos (by simp [hnumeric, halphabetic]), Option.getD_some]
    · have halnum : ¬isAlphanumeric c := by simp [isAlphanumeric, hnumeric, halphabetic]
      rw [group_weight_of_not_alphanumeric hc halnum, if_neg (by simp [hnumeric, hdigit]),
        Option.getD_none]
  | digit =>
    have hdigit : isDecimalDigit c := h
    have halnum := isAlphanumeric_of_isNumeric (isNumeric_of_isDecimalDigit hdigit)
    have hblank : ¬isBlank c := fun hblank => not_isAlphanumeric_of_isBlank hblank halnum
    rw [group_weight_of_alphanumeric hc halnum, if_neg hblank, hdigit, Bool.true_or, if_pos rfl,
      Option.getD_some]
  | letter =>
    have halnum := isAlphanumeric_of_isAlphabetic h
    have hblank : ¬isBlank c := fun hblank => not_isAlphanumeric_of_isBlank hblank halnum
    rw [group_weight_of_alphanumeric hc halnum, if_neg hblank]
    -- if a letter were a number that is moved, then to the letters
    split <;> rfl

/-- A character is placed in its group, unless it is moved to another. -/
theorem group_weight {g : Group} {c : Char} (h : g.has c) :
    (weight c).group = (movedTo? c).getD g := by
  by_cases hc : c.toNat ∈ tabledCodes
  · rw [(tables_of_groups hc).1, Option.getD_none, group_weight_of_tabled hc h]
  · exact group_weight_of_not_tabled hc h

/-- Characters are moved to later groups only. -/
theorem rank_le_of_movedTo? {g k : Group} {c : Char} (h : g.has c) (hmoved : movedTo? c = some k) :
    g.rank ≤ k.rank := by
  obtain ⟨hblank, rfl⟩ | ⟨-, rfl⟩ := movedTo?_cases hmoved
  · have halnum := not_isAlphanumeric_of_isBlank hblank
    cases g with
    | blank => decide
    | symbol => decide
    | digit => exact absurd (isAlphanumeric_of_isNumeric (isNumeric_of_isDecimalDigit h)) halnum
    | letter => exact absurd (isAlphanumeric_of_isAlphabetic h) halnum
  · cases g <;> decide

/-- After a common beginning, a character of an earlier group makes a text come first, unless it
is moved to a group that is not earlier. -/
theorem texts_by_groups (p x y : String) {c d : Char} {g h : Group} (hc : g.has c) (hd : h.has d)
    (hlt : g < h) (hmoved : ∀ k, movedTo? c = some k → k < h) :
    compareText (p ++ String.singleton c ++ x) (p ++ String.singleton d ++ y) = .lt := by
  have hbefore : ((movedTo? c).getD g).rank < h.rank := by
    cases hto : movedTo? c with
    | none => exact hlt
    | some k => exact hmoved k hto
  have hafter : h.rank ≤ ((movedTo? d).getD h).rank := by
    cases hto : movedTo? d with
    | none => exact Nat.le_refl _
    | some k => exact rank_le_of_movedTo? hd hto
  refine compareText_of_primary_lt p x y (Weight.primary_lt_of_group_lt ?_)
  rw [group_weight hc, group_weight hd]
  exact Nat.lt_of_lt_of_le hbefore hafter

/-- A blank is before a symbol, and so is the no-break space, though placed with the symbols, before
a digit. -/
theorem texts_by_groups_no_break :
    compareText "a b" "a-b" = .lt ∧ compareText "a\u00a0b" "a1b" = .lt := by
  refine ⟨?_, ?_⟩
  · exact texts_by_groups "a" "b" "b" (c := ' ') (d := '-') (g := .blank) (h := .symbol)
      (by decide +kernel) (by decide +kernel) (by decide) (by decide +kernel)
  · exact texts_by_groups "a" "b" "b" (c := '\u00a0') (d := '1') (g := .blank) (h := .digit)
      (by decide +kernel) (by decide +kernel) (by decide) (by decide +kernel)

/-- A character that is moved comes after all ASCII characters of the group it is moved to. -/
theorem compareText_moved (p x y : String) {c d : Char} {k : Group} (hc : movedTo? c = some k)
    (hd : k.has d) (hascii : d.toNat < 0x80) :
    compareText (p ++ String.singleton d ++ x) (p ++ String.singleton c ++ y) = .lt := by
  have hbeyond : c.toNat ∉ tabledCodes := fun htabled => by
    rw [(tables_of_groups htabled).1] at hc
    contradiction
  have htabled : d.toNat ∈ tabledCodes := List.mem_append_left _ (List.mem_range.mpr hascii)
  refine compareText_of_primary_lt p x y ?_
  obtain ⟨hblank, rfl⟩ | ⟨hnumeric, rfl⟩ := movedTo?_cases hc
  · rw [weight_of_not_alphanumeric hbeyond (not_isAlphanumeric_of_isBlank hblank)]
    exact Nat.lt_add_right _ (((tables_of_groups htabled).2.2.1 hd).2 hascii)
  · rw [weight_of_alphanumeric hbeyond (isAlphanumeric_of_isNumeric hnumeric)]
    exact Nat.lt_add_right _ (tables_of_weights htabled).2.1

/-- The no-break space, a blank, is after the underscore, a symbol. -/
theorem no_break_space_after_underscore :
    Group.blank.has '\u00a0' ∧ Group.symbol.has '_' ∧ Group.blank < Group.symbol ∧
      compareText "\u00a0" "_" = .gt := by
  decide +kernel

end DocQuery.Collation
