import DocQuery.Proofs.Sql.Meaning
import Mathlib.Data.List.TakeWhile

/-!
# Placeholders in texts

The placeholders that a text mentions, found by reading the text: a dollar sign and the digits after
it. The texts of predicates mention the placeholders of the predicates, and those of bound
restrictions are numbered without a gap from the values bound before.
-/

namespace DocQuery.Sql

/-- The placeholders that a text mentions, in their order. -/
def mentions : List Char → List Nat
  | [] => []
  | c :: rest =>
    if c = '$' then Nat.ofDigitChars 10 (rest.takeWhile Char.isDigit) 0 :: mentions rest
    else mentions rest

/-- The placeholders that several texts mention. -/
def mentionsOf (texts : List String) : List Nat := texts.flatMap fun text => mentions text.toList

/-- The placeholders of a predicate. -/
def Predicate.placeholders : Predicate → List Nat
  | .compare _ _ placeholder => [placeholder]
  | .oneOf _ placeholders => placeholders
  | .like .. => []

/-- Whether the text of a predicate looks like no other placeholder: a pattern has no dollar
sign. -/
def Predicate.Plain : Predicate → Prop
  | .like _ _ pattern => '$' ∉ pattern.toList
  | _ => True

/-- Whether a restriction compares every value with some column, and is plain. -/
def Restriction.Plain : Restriction → Prop
  | .compare columns _ _ => columns ≠ []
  | .oneOf .. => True
  | .like _ _ pattern => '$' ∉ pattern.toList

/-- A text without a dollar sign mentions nothing, before another text as well. -/
theorem mentions_append_of_not_mem {a : List Char} (h : '$' ∉ a) (b : List Char) :
    mentions (a ++ b) = mentions b := by
  induction a with
  | nil => rfl
  | cons c rest ih =>
    rw [List.mem_cons, not_or] at h
    rw [List.cons_append, mentions, if_neg (Ne.symm h.1), ih h.2]

/-- A text without a dollar sign mentions nothing. -/
theorem mentions_of_not_mem {a : List Char} (h : '$' ∉ a) : mentions a = [] := by
  have happend := mentions_append_of_not_mem h []
  rwa [List.append_nil] at happend

private theorem takeWhile_append_of_head {a b : List Char}
    (h : ∀ c ∈ b.head?, c.isDigit = false) :
    (a ++ b).takeWhile Char.isDigit = a.takeWhile Char.isDigit := by
  induction a with
  | nil =>
    cases b with
    | nil => rfl
    | cons c rest => rw [List.nil_append, List.takeWhile_cons, h c rfl]; rfl
  | cons c rest ih => rw [List.cons_append, List.takeWhile_cons, List.takeWhile_cons, ih]

/-- Texts can be read one after the other, unless digits would go on with a number. -/
theorem mentions_append {a b : List Char} (h : ∀ c ∈ b.head?, c.isDigit = false) :
    mentions (a ++ b) = mentions a ++ mentions b := by
  induction a with
  | nil => rfl
  | cons c rest ih =>
    rw [List.cons_append, mentions, mentions, ih, takeWhile_append_of_head h]
    split <;> rfl

/-- Between texts there is a separator, after which reading starts anew. -/
theorem mentions_intercalate {separator : String} {c : Char}
    (hhead : separator.toList.head? = some c) (hdigit : c.isDigit = false)
    (hdollar : '$' ∉ separator.toList) (texts : List String) :
    mentions (separator.intercalate texts).toList = mentionsOf texts := by
  rw [String.toList_intercalate]
  induction texts with
  | nil => rfl
  | cons text rest ih =>
    cases rest with
    | nil => simp [mentionsOf]
    | cons next others =>
      have hstart : ∀ d ∈ (separator.toList ++ separator.toList.intercalate
          ((next :: others).map String.toList)).head?, d.isDigit = false := by
        intro d hd
        rw [List.head?_append, hhead] at hd
        cases hd
        exact hdigit
      rw [List.map_cons] at hstart ih ⊢
      rw [List.map_cons, List.intercalate_cons_cons, List.append_assoc, mentions_append hstart,
        mentions_append_of_not_mem hdollar, ih]
      rfl

/-- The text of a placeholder mentions the placeholder. -/
theorem mentions_placeholderText (n : Nat) : mentions (placeholderText n).toList = [n] := by
  have hdigits : ∀ c ∈ Nat.toDigits 10 n, c.isDigit = true := fun c hc =>
    Nat.isDigit_of_mem_toDigits (by decide) (by decide) hc
  have hdollar : '$' ∉ Nat.toDigits 10 n := fun hmem => absurd (hdigits _ hmem) (by decide)
  have htext : (placeholderText n).toList = '$' :: Nat.toDigits 10 n := by simp [placeholderText]
  rw [htext, mentions, if_pos rfl, List.takeWhile_eq_self_iff.mpr hdigits,
    Nat.ofDigitChars_ten_toDigits, mentions_of_not_mem hdollar]

/-- The text of several placeholders in parentheses. -/
def placeholderList (placeholders : List Nat) : String :=
  "(" ++ ", ".intercalate (placeholders.map placeholderText) ++ ")"

/-- The text of several placeholders mentions them in their order. -/
theorem mentions_placeholderList (placeholders : List Nat) :
    mentions (placeholderList placeholders).toList = placeholders := by
  have hbefore : '$' ∉ "(".toList := by decide
  have hend : ∀ c ∈ ")".toList.head?, c.isDigit = false := by
    intro c hc
    obtain rfl : ')' = c := Option.some.inj hc
    rfl
  rw [placeholderList, String.toList_append, mentions_append hend, String.toList_append,
    mentions_append_of_not_mem hbefore, mentions_intercalate rfl (by decide) (by decide),
    mentionsOf, List.flatMap_map]
  simp only [mentions_placeholderText, List.flatMap_singleton']
  exact List.append_nil placeholders

private theorem dollar_not_mem_column (column : Column) : '$' ∉ column.text.toList := by
  cases column <;> decide

private theorem dollar_not_mem_comparison (comparison : Comparison) :
    '$' ∉ (comparisonText comparison).toList := by
  cases comparison <;> decide

/-- The text of a predicate mentions the placeholders of the predicate. -/
theorem mentions_text {p : Predicate} (h : p.Plain) : mentions p.text.toList = p.placeholders := by
  cases p with
  | compare column comparison placeholder =>
    have hbefore : '$' ∉ (column.text ++ " " ++ comparisonText comparison ++ " ").toList := by
      simp [dollar_not_mem_column, dollar_not_mem_comparison]
    rw [Predicate.text, String.toList_append, mentions_append_of_not_mem hbefore,
      mentions_placeholderText, Predicate.placeholders]
  | oneOf column placeholders =>
    have hbefore : '$' ∉ (column.text ++ " IN ").toList := by
      simp [dollar_not_mem_column]
    have htext : (Predicate.oneOf column placeholders).text.toList =
        (column.text ++ " IN ").toList ++ (placeholderList placeholders).toList := by
      simp [Predicate.text, placeholderList]
    rw [htext, mentions_append_of_not_mem hbefore, mentions_placeholderList,
      Predicate.placeholders]
  | like column negated pattern =>
    have hpattern : '$' ∉ pattern.toList := h
    apply mentions_of_not_mem
    cases negated <;> simp [Predicate.text, dollar_not_mem_column, hpattern]

/-- The texts of plain predicates mention the placeholders of the predicates. -/
theorem mentionsOf_map_text {predicates : List Predicate} (h : ∀ p ∈ predicates, p.Plain) :
    mentionsOf (predicates.map Predicate.text) = predicates.flatMap Predicate.placeholders := by
  rw [mentionsOf, List.flatMap_map]
  exact List.flatMap_congr fun p hp => mentions_text (h p hp)

/-- The placeholders of a predicate refer to the values of the restriction it is about. -/
theorem valueAt?_placeholders {values : List String} {p : Predicate} {r : Restriction}
    (h : p.filled? values = some r) : p.placeholders.map (valueAt? values) = r.values.map some := by
  cases p with
  | compare column comparison placeholder =>
    obtain ⟨value, hvalue, rfl⟩ := Option.map_eq_some_iff.mp h
    simp [Predicate.placeholders, Restriction.values, hvalue]
  | oneOf column placeholders =>
    obtain ⟨found, hfound, rfl⟩ := Option.map_eq_some_iff.mp h
    exact map_valueAt?_of_mapM hfound
  | like column negated pattern =>
    cases h
    rfl

/-- The placeholders of predicates refer, one after the other, to the values of what they are
about. -/
theorem map_valueAt?_flatMap {values : List String} {predicates : List Predicate}
    {meant : List Restriction}
    (h : predicates.map (Predicate.filled? values) = meant.map some) :
    (predicates.flatMap Predicate.placeholders).map (valueAt? values) =
      (meant.flatMap Restriction.values).map some := by
  induction Predicate.forall₂_of_filled h with
  | nil => rfl
  | cons hp hrest ih =>
    rw [List.flatMap_cons, List.map_append, List.flatMap_cons, List.map_append,
      valueAt?_placeholders hp, ih (List.cons.inj h).2]

namespace Restriction

/-- The predicates of a plain restriction are plain. -/
theorem plain_of_mem_predicates {r : Restriction} (h : r.Plain) {before : Nat} {p : Predicate}
    (hp : p ∈ r.predicates before) : p.Plain := by
  cases r with
  | compare columns comparison value =>
    obtain ⟨column, -, rfl⟩ := List.mem_map.mp hp
    trivial
  | oneOf column values =>
    obtain rfl := List.mem_singleton.mp hp
    trivial
  | like column negated pattern =>
    obtain rfl := List.mem_singleton.mp hp
    exact h

/-- The predicates of plain restrictions are plain. -/
theorem plain_of_mem_bindAll {restrictions : List Restriction} (h : ∀ r ∈ restrictions, r.Plain)
    {bound : List String} {p : Predicate} (hp : p ∈ (bindAll restrictions bound).1) : p.Plain := by
  induction restrictions generalizing bound with
  | nil => cases hp
  | cons r rest ih =>
    rw [bindAll_cons, List.mem_append] at hp
    rcases hp with hp | hp
    · exact plain_of_mem_predicates (h r List.mem_cons_self) hp
    · exact ih (fun r hr => h r (List.mem_cons_of_mem _ hr)) hp

private theorem eraseDups_range' (start count : Nat) :
    (List.range' start count).eraseDups = List.range' start count := by
  induction count generalizing start with
  | zero => rfl
  | succ count ih =>
    have hlater : (List.range' (start + 1) count).filter (fun n => !n == start) =
        List.range' (start + 1) count := by
      rw [List.filter_eq_self]
      intro n hn
      rw [List.mem_range'_1] at hn
      simp only [Bool.not_eq_true', beq_eq_false_iff_ne]
      omega
    rw [List.range'_succ, List.eraseDups_cons, hlater, ih]

/-- A value is mentioned first by its first column, and then again by the others. -/
theorem eraseDups_placeholders {r : Restriction} (h : r.Plain) (before : Nat) :
    ((r.predicates before).flatMap Predicate.placeholders).eraseDups =
      List.range' (before + 1) r.values.length := by
  cases r with
  | compare columns comparison value =>
    obtain ⟨column, rest, rfl⟩ := List.exists_cons_of_ne_nil h
    have hsame : ((compare (column :: rest) comparison value).predicates before).flatMap
        Predicate.placeholders = (before + 1) :: List.replicate rest.length (before + 1) := by
      simp [predicates, Predicate.placeholders, List.flatMap_map, ← List.map_eq_flatMap]
    rw [hsame, List.eraseDups_cons, List.filter_replicate]
    simp [values]
  | oneOf column values =>
    rw [predicates, List.flatMap_singleton]
    exact eraseDups_range' (before + 1) values.length
  | like column negated pattern => rfl

/-- The placeholders of bound restrictions are those of the values added, by their first
mentions. -/
theorem eraseDups_placeholders_bindAll {restrictions : List Restriction}
    (h : ∀ r ∈ restrictions, r.Plain) (bound : List String) :
    ((bindAll restrictions bound).1.flatMap Predicate.placeholders).eraseDups =
      List.range' (bound.length + 1) (restrictions.flatMap values).length := by
  induction restrictions generalizing bound with
  | nil => rfl
  | cons r rest ih =>
    have hfirst := eraseDups_placeholders (h r List.mem_cons_self) bound.length
    have hrest := ih (fun r hr => h r (List.mem_cons_of_mem _ hr)) (bound ++ r.values)
    rw [List.length_append] at hrest
    -- No later placeholder is one of the first restriction's: they all come after its values.
    have hnew : ((bindAll rest (bound ++ r.values)).1.flatMap Predicate.placeholders).removeAll
        ((r.predicates bound.length).flatMap Predicate.placeholders) =
        (bindAll rest (bound ++ r.values)).1.flatMap Predicate.placeholders := by
      rw [List.removeAll, List.filter_eq_self]
      intro n hn
      rw [← List.mem_eraseDups, hrest, List.mem_range'_1] at hn
      simp only [Bool.not_eq_true', List.elem_eq_mem, decide_eq_false_iff_not]
      rw [← List.mem_eraseDups, hfirst, List.mem_range'_1]
      omega
    rw [bindAll_cons, List.flatMap_append, List.eraseDups_append, hnew, hfirst, hrest,
      List.flatMap_cons, List.length_append, ← List.range'_append_1]
    congr 2
    omega

end Restriction

end DocQuery.Sql
