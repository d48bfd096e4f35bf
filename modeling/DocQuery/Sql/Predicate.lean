import DocQuery.Selector.Operator

/-!
# Predicates

The conditions of a query in SQL. A value stands outside of the text of the query, in a list of
values, and a predicate refers to it by a placeholder, its position counted from one.
-/

namespace DocQuery.Sql

/-- A column that predicates are about. -/
inductive Column where
  /-- The key of a row of a view. -/
  | key
  /-- The document of a row of a view. -/
  | docId
  /-- The first key that a reduced row covers. -/
  | firstKey
  /-- The last key that a reduced row covers. -/
  | lastKey
  /-- The document of a change. -/
  | changedId
  deriving DecidableEq, Repr

/-- The text of a column. -/
def Column.text : Column → String
  | .key => "view.key"
  | .docId => "view.id"
  | .firstKey => "view.first_key"
  | .lastKey => "view.last_key"
  | .changedId => "results.id"

/-- The text of a comparison. -/
def comparisonText : Comparison → String
  | .eq => "="
  | .ne => "<>"
  | .lt => "<"
  | .lte => "<="
  | .gt => ">"
  | .gte => ">="

/-- A condition on a column. -/
inductive Predicate where
  /-- The column compares with the value of a placeholder. -/
  | compare (column : Column) (comparison : Comparison) (placeholder : Nat)
  /-- The column is one of the values of several placeholders. -/
  | oneOf (column : Column) (placeholders : List Nat)
  /-- The column is like a pattern, or is not. In a pattern a percent sign stands for any text and
  an underscore for any one character. -/
  | like (column : Column) (negated : Bool) (pattern : String)
  deriving DecidableEq, Repr

/-- The text of a placeholder. -/
def placeholderText (placeholder : Nat) : String := "$" ++ toString placeholder

/-- The text of a predicate. -/
def Predicate.text : Predicate → String
  | .compare column comparison placeholder =>
    column.text ++ " " ++ comparisonText comparison ++ " " ++ placeholderText placeholder
  | .oneOf column placeholders =>
    column.text ++ " IN (" ++ ", ".intercalate (placeholders.map placeholderText) ++ ")"
  | .like column negated pattern =>
    column.text ++ (if negated then " NOT LIKE '" else " LIKE '") ++ pattern ++ "'"

end DocQuery.Sql
