import DocQuery.Sql.Predicate

/-!
# Restrictions

What rows have to satisfy, with the values themselves. Binding a restriction adds its values to
the list of values of a query, and gives predicates that refer to them there.
-/

namespace DocQuery.Sql

/-- A condition on rows. -/
inductive Restriction where
  /-- Each of several columns compares with a value. -/
  | compare (columns : List Column) (comparison : Comparison) (value : String)
  /-- A column is one of several values. -/
  | oneOf (column : Column) (values : List String)
  /-- A column is like a pattern, or is not. -/
  | like (column : Column) (negated : Bool) (pattern : String)
  deriving DecidableEq, Repr

namespace Restriction

/-- The values of a restriction. -/
def values : Restriction → List String
  | .compare _ _ value => [value]
  | .oneOf _ values => values
  | .like .. => []

/-- The predicates of a restriction whose values come after a number of others. -/
def predicates (before : Nat) : Restriction → List Predicate
  | .compare columns comparison _ =>
    columns.map fun column => .compare column comparison (before + 1)
  | .oneOf column values => [.oneOf column (List.range' (before + 1) values.length)]
  | .like column negated pattern => [.like column negated pattern]

/-- Binds restrictions one after another: their predicates, and the list of values with theirs. -/
def bindAll : List Restriction → List String → List Predicate × List String
  | [], bound => ([], bound)
  | r :: rest, bound =>
    let (predicates, all) := bindAll rest (bound ++ r.values)
    (r.predicates bound.length ++ predicates, all)

end Restriction

end DocQuery.Sql
