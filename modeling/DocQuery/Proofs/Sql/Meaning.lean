import DocQuery.Selector.Match
import DocQuery.Sql.Restriction
import Mathlib.Data.List.Forall2
import Mathlib.Data.List.Infix

/-!
# The meaning of predicates

When a row satisfies a predicate under a list of values, and when it satisfies a restriction. How
the values of a column are ordered is left to the database. The predicates that restrictions are
bound to mean what the restrictions do, and go on to do so when further values are bound.
-/

namespace DocQuery.Sql

/-- The value that a placeholder refers to; there is none at position zero. -/
def valueAt? (values : List String) : Nat → Option String
  | 0 => none
  | position + 1 => values[position]?

/-- Whether a text is like a pattern. A percent sign stands for the text before any of its ends. -/
def isLike : List Char → List Char → Bool
  | [], text => text.isEmpty
  | c :: pattern, text =>
    if c = '%' then text.tails.any (isLike pattern)
    else match text with
      | [] => false
      | d :: rest => (c = '_' || c = d) && isLike pattern rest

/-- The orders of the values of the columns. -/
abbrev ColumnOrder := Column → String → String → Ordering

/-- The values of the columns of a row. -/
abbrev Row := Column → String

/-- Whether a row satisfies a predicate. -/
def Predicate.holds (order : ColumnOrder) (row : Row) (values : List String) : Predicate → Bool
  | .compare column comparison placeholder =>
    (valueAt? values placeholder).any fun value =>
      comparison.holds (order column (row column) value)
  | .oneOf column placeholders =>
    placeholders.any fun placeholder =>
      (valueAt? values placeholder).any fun value => order column (row column) value == .eq
  | .like column negated pattern => isLike pattern.toList (row column).toList != negated

/-- Whether a row satisfies a restriction. -/
def Restriction.holds (order : ColumnOrder) (row : Row) : Restriction → Bool
  | .compare columns comparison value =>
    columns.all fun column => comparison.holds (order column (row column) value)
  | .oneOf column values => values.any fun value => order column (row column) value == .eq
  | .like column negated pattern => isLike pattern.toList (row column).toList != negated

/-- The restriction that a predicate is about, the values being put for their placeholders. -/
def Predicate.filled? (values : List String) : Predicate → Option Restriction
  | .compare column comparison placeholder =>
    (valueAt? values placeholder).map (.compare [column] comparison)
  | .oneOf column placeholders => (placeholders.mapM (valueAt? values)).map (.oneOf column)
  | .like column negated pattern => some (.like column negated pattern)

/-- The parts of a restriction that concern one column each. -/
def Restriction.parts : Restriction → List Restriction
  | .compare columns comparison value =>
    columns.map fun column => .compare [column] comparison value
  | .oneOf column values => [.oneOf column values]
  | .like column negated pattern => [.like column negated pattern]

/-- The position after a number of values is that of the next value. -/
theorem valueAt?_of_prefix {before values all : List String} {value : String}
    (h : before ++ value :: values <+: all) : valueAt? all (before.length + 1) = some value := by
  obtain ⟨later, rfl⟩ := h
  simp [valueAt?]

/-- The positions after a number of values are those of the next values, in their order. -/
theorem mapM_valueAt?_of_prefix {before values all : List String}
    (h : before ++ values <+: all) :
    (List.range' (before.length + 1) values.length).mapM (valueAt? all) = some values := by
  induction values generalizing before with
  | nil => rfl
  | cons value rest ih =>
    have hnext : (before ++ [value]) ++ rest <+: all := by simpa using h
    have hrest := ih hnext
    rw [List.length_append, List.length_singleton] at hrest
    rw [List.length_cons, List.range'_succ, List.mapM_cons, valueAt?_of_prefix h, hrest]
    rfl

/-- The values of a list of placeholders are found one by one. -/
theorem map_valueAt?_of_mapM {values found : List String} {placeholders : List Nat}
    (h : placeholders.mapM (valueAt? values) = some found) :
    placeholders.map (valueAt? values) = found.map some := by
  induction placeholders generalizing found with
  | nil =>
    cases h
    rfl
  | cons placeholder rest ih =>
    rw [List.mapM_cons] at h
    obtain ⟨value, hvalue, h⟩ := Option.bind_eq_some_iff.mp h
    obtain ⟨others, hothers, h⟩ := Option.bind_eq_some_iff.mp h
    cases h
    rw [List.map_cons, List.map_cons, ih hothers, hvalue]

private theorem any_valueAt?_of_mapM {values found : List String} {placeholders : List Nat}
    (h : placeholders.mapM (valueAt? values) = some found) (test : String → Bool) :
    (placeholders.any fun placeholder => (valueAt? values placeholder).any test) =
      found.any test := by
  have hany : (placeholders.map (valueAt? values)).any (Option.any test) =
      (found.map some).any (Option.any test) := by rw [map_valueAt?_of_mapM h]
  simpa [List.any_map, Function.comp_def] using hany

variable {order : ColumnOrder} {row : Row}

/-- A row satisfies a predicate if it satisfies the restriction that the predicate is about. -/
theorem Predicate.holds_of_filled {values : List String} {p : Predicate} {r : Restriction}
    (h : p.filled? values = some r) : p.holds order row values = r.holds order row := by
  cases p with
  | compare column comparison placeholder =>
    obtain ⟨value, hvalue, rfl⟩ := Option.map_eq_some_iff.mp h
    simp [Predicate.holds, Restriction.holds, hvalue]
  | oneOf column placeholders =>
    obtain ⟨found, hfound, rfl⟩ := Option.map_eq_some_iff.mp h
    exact any_valueAt?_of_mapM hfound _
  | like column negated pattern =>
    cases h
    rfl

/-- Predicates and the restrictions that they are about go together one by one. -/
theorem Predicate.forall₂_of_filled {values : List String} {predicates : List Predicate}
    {meant : List Restriction} (h : predicates.map (filled? values) = meant.map some) :
    List.Forall₂ (fun p r => p.filled? values = some r) predicates meant := by
  rwa [← List.forall₂_eq_eq_eq, List.forall₂_map_left_iff, List.forall₂_map_right_iff] at h

/-- Predicates hold exactly if what they are about does. -/
theorem Predicate.all_holds_of_filled {values : List String} {predicates : List Predicate}
    {meant : List Restriction} (h : predicates.map (filled? values) = meant.map some) :
    predicates.all (holds order row values) = meant.all (Restriction.holds order row) := by
  induction forall₂_of_filled h with
  | nil => rfl
  | cons hp hrest ih =>
    rw [List.all_cons, List.all_cons, holds_of_filled hp, ih (List.cons.inj h).2]

/-- A row satisfies a restriction if it satisfies all of its parts. -/
theorem Restriction.all_holds_parts (r : Restriction) :
    r.parts.all (holds order row) = r.holds order row := by
  cases r <;> simp [parts, holds, List.all_map, Function.comp_def]

namespace Restriction

/-- No restrictions bind no value. -/
@[simp] theorem bindAll_nil (bound : List String) : bindAll [] bound = ([], bound) := rfl

/-- Restrictions are bound from the first one on. -/
@[simp] theorem bindAll_cons (r : Restriction) (rest : List Restriction) (bound : List String) :
    bindAll (r :: rest) bound =
      (r.predicates bound.length ++ (bindAll rest (bound ++ r.values)).1,
        (bindAll rest (bound ++ r.values)).2) := rfl

/-- Binding adds the values of the restrictions to those bound before. -/
theorem bindAll_snd (restrictions : List Restriction) (bound : List String) :
    (bindAll restrictions bound).2 = bound ++ restrictions.flatMap values := by
  induction restrictions generalizing bound with
  | nil => simp
  | cons r rest ih => rw [bindAll_cons, ih, List.flatMap_cons, List.append_assoc]

/-- The predicates of one restriction are about its parts. -/
theorem filled?_predicates {r : Restriction} {before all : List String}
    (h : before ++ r.values <+: all) :
    (r.predicates before.length).map (Predicate.filled? all) = r.parts.map some := by
  cases r with
  | compare columns comparison value =>
    have hvalue : valueAt? all (before.length + 1) = some value := valueAt?_of_prefix h
    simp [predicates, parts, Predicate.filled?, hvalue]
  | oneOf column values =>
    have hvalues : before ++ values <+: all := h
    simp [predicates, parts, Predicate.filled?, mapM_valueAt?_of_prefix hvalues]
  | like column negated pattern => rfl

/-- The predicates of restrictions are about the parts of the restrictions, in their order, under
every list of values that begins with the ones bound. -/
theorem filled?_bindAll {restrictions : List Restriction} {bound all : List String}
    (h : (bindAll restrictions bound).2 <+: all) :
    (bindAll restrictions bound).1.map (Predicate.filled? all) =
      (restrictions.flatMap parts).map some := by
  induction restrictions generalizing bound with
  | nil => rfl
  | cons r rest ih =>
    rw [bindAll_cons] at h
    have hfirst : bound ++ r.values <+: all := by
      refine List.IsPrefix.trans ?_ h
      rw [bindAll_snd]
      exact List.prefix_append _ _
    rw [bindAll_cons, List.map_append, filled?_predicates hfirst, ih h, List.flatMap_cons,
      List.map_append]

/-- A row satisfies all predicates of restrictions if it satisfies all restrictions. -/
theorem holds_bindAll {restrictions : List Restriction} {bound all : List String}
    (h : (bindAll restrictions bound).2 <+: all) :
    (bindAll restrictions bound).1.all (Predicate.holds order row all) =
      restrictions.all (holds order row) := by
  rw [Predicate.all_holds_of_filled (filled?_bindAll h), List.all_flatMap]
  simp only [all_holds_parts]

end Restriction

end DocQuery.Sql
