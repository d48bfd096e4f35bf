/-!
# Selector operators

The operators of the selector language and their names, by the way they are used: combinations of
selectors, negation, comparisons with an operand, other tests of a value, and tests of the items
or keys of a value.
-/

namespace DocQuery

/-- How a list of selectors is combined. -/
inductive Combinator where
  | and
  | or
  | nor
  deriving DecidableEq, Repr

/-- How a value is compared with an operand in collation order. -/
inductive Comparison where
  | eq
  | ne
  | lt
  | lte
  | gt
  | gte
  deriving DecidableEq, Repr

/-- The tests of a value other than comparisons. -/
inductive TestKind where
  | present
  | kind
  | oneOf
  | noneOf
  | size
  | residue
  | pattern
  | allOf
  deriving DecidableEq, Repr

/-- How a selector is applied inside a value: to some item, to every item, to some key. -/
inductive Quantifier where
  | someItem
  | everyItem
  | someKey
  deriving DecidableEq, Repr

/-- An operator of the selector language. -/
inductive Operator where
  | combine (combinator : Combinator)
  | not
  | compare (comparison : Comparison)
  | test (test : TestKind)
  | element (quantifier : Quantifier)
  deriving DecidableEq, Repr

namespace Operator

/-- Every operator. -/
def all : List Operator := [
  .combine .and, .combine .or, .combine .nor, .not,
  .compare .eq, .compare .ne, .compare .lt, .compare .lte, .compare .gt, .compare .gte,
  .test .present, .test .kind, .test .oneOf, .test .noneOf, .test .size, .test .residue,
  .test .pattern, .test .allOf,
  .element .someItem, .element .everyItem, .element .someKey]

/-- The name of an operator. -/
def name : Operator → String
  | .combine .and => "$and"
  | .combine .or => "$or"
  | .combine .nor => "$nor"
  | .not => "$not"
  | .compare .eq => "$eq"
  | .compare .ne => "$ne"
  | .compare .lt => "$lt"
  | .compare .lte => "$lte"
  | .compare .gt => "$gt"
  | .compare .gte => "$gte"
  | .test .present => "$exists"
  | .test .kind => "$type"
  | .test .oneOf => "$in"
  | .test .noneOf => "$nin"
  | .test .size => "$size"
  | .test .residue => "$mod"
  | .test .pattern => "$regex"
  | .test .allOf => "$all"
  | .element .someItem => "$elemMatch"
  | .element .everyItem => "$allMatch"
  | .element .someKey => "$keyMapMatch"

/-- The operator with a name. -/
def ofName? (name : String) : Option Operator := all.find? fun op => op.name == name

/-- The list of operators is complete. -/
theorem mem_all (op : Operator) : op ∈ all := by
  rcases op with (_ | _ | _) | _ | (_ | _ | _ | _ | _ | _) | (_ | _ | _ | _ | _ | _ | _ | _) |
    (_ | _ | _) <;> decide

end Operator

end DocQuery
