import DocQuery.Proofs.Sql.Meaning

/-!
# Patterns

How a text is compared with a pattern that is read from its beginning: characters stand for
themselves, an underscore for any one character, and a percent sign at the end for all that is left.
-/

namespace DocQuery.Sql

/-- Whether a character stands for itself in a pattern. -/
def IsLiteral (c : Char) : Prop := c ≠ '%' ∧ c ≠ '_'

instance (c : Char) : Decidable (IsLiteral c) := inferInstanceAs (Decidable (_ ∧ _))

/-- A percent sign at the end stands for any text. -/
theorem isLike_percent (text : List Char) : isLike ['%'] text = true := by
  have hend : isLike [] [] = true := rfl
  rw [isLike.eq_def]
  simp only [if_true]
  rw [List.any_eq_true]
  exact ⟨[], by simp, hend⟩

/-- An underscore stands for any one character. -/
theorem isLike_underscore (pattern text : List Char) :
    isLike ('_' :: pattern) text = true ↔
      ∃ c rest, text = c :: rest ∧ isLike pattern rest = true := by
  have hpercent : ¬ '_' = '%' := by decide
  cases text with
  | nil => simp [isLike, hpercent]
  | cons c text => simp [isLike, hpercent]

/-- A literal stands for itself. -/
theorem isLike_literal {c : Char} (h : IsLiteral c) (pattern text : List Char) :
    isLike (c :: pattern) text = true ↔
      ∃ rest, text = c :: rest ∧ isLike pattern rest = true := by
  cases text with
  | nil => simp [isLike, h.1]
  | cons d text =>
    have hnext : isLike (c :: pattern) (d :: text) = (decide (c = d) && isLike pattern text) := by
      simp [isLike, h.1, h.2]
    rw [hnext, Bool.and_eq_true, decide_eq_true_iff]
    constructor
    · rintro ⟨rfl, hlike⟩
      exact ⟨text, rfl, hlike⟩
    · rintro ⟨rest, heq, hlike⟩
      cases heq
      exact ⟨rfl, hlike⟩

/-- A text is like literals and a percent sign if it begins with them. -/
theorem isLike_prefix {literals : List Char} (h : ∀ c ∈ literals, IsLiteral c)
    (text : List Char) : isLike (literals ++ ['%']) text = true ↔ literals <+: text := by
  induction literals generalizing text with
  | nil => simp [isLike_percent]
  | cons c literals ih =>
    rw [List.forall_mem_cons] at h
    rw [List.cons_append, isLike_literal h.1]
    cases text with
    | nil => simp
    | cons d text => simp [List.cons_prefix_cons, ih h.2, eq_comm]

end DocQuery.Sql
