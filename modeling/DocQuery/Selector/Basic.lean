import DocQuery.Json.Basic
import DocQuery.Regex.Basic
import DocQuery.Selector.FieldPath
import DocQuery.Selector.Operator

/-!
# Selectors

A selector is a condition on JSON values: a combination or the negation of selectors, a selector
applied to the value at a field, a condition on the value itself, or a selector applied to the
items or keys of the value. The type admits no residue by a zero divisor and no pattern that does
not compile.
-/

namespace DocQuery

/-- A condition on a single value, with its operand. -/
inductive Condition where
  /-- The value compares with the operand as stated. -/
  | compare (comparison : Comparison) (operand : Json)
  /-- The value is null or not. -/
  | present (expected : Bool)
  /-- The value is of a kind. -/
  | kind (expected : Json.Kind)
  /-- The value is one of a list. -/
  | oneOf (values : List Json)
  /-- The value is none of a list. -/
  | noneOf (values : List Json)
  /-- The value is an array of a length. -/
  | size (length : UInt64)
  /-- The value is an integer with a remainder. -/
  | residue (divisor remainder : Int64) (divisor_ne_zero : divisor ≠ 0)
  /-- The value is a string in which a pattern occurs. -/
  | pattern (regex : Regex)
  /-- The value is an array with all values of a list among its items. -/
  | allOf (values : List Json)

/-- A selector. -/
inductive Selector where
  | combination (combinator : Combinator) (children : List Selector)
  | not (child : Selector)
  | field (path : FieldPath) (condition : Selector)
  | condition (condition : Condition)
  | element (quantifier : Quantifier) (condition : Selector)

namespace Condition

/-- The operator of a condition. -/
def operator : Condition → Operator
  | .compare comparison _ => .compare comparison
  | .present _ => .test .present
  | .kind _ => .test .kind
  | .oneOf _ => .test .oneOf
  | .noneOf _ => .test .noneOf
  | .size _ => .test .size
  | .residue .. => .test .residue
  | .pattern _ => .test .pattern
  | .allOf _ => .test .allOf

/-- The operand of a condition. -/
def operand : Condition → Json
  | .compare _ operand => operand
  | .present expected => .bool expected
  | .kind expected => .str expected.name
  | .oneOf values => .arr values
  | .noneOf values => .arr values
  | .size length => .num (.ofUInt64 length)
  | .residue divisor remainder _ => .arr [.num (.ofInt64 divisor), .num (.ofInt64 remainder)]
  | .pattern regex => .str regex.pattern
  | .allOf values => .arr values

/-- Sameness of conditions: one operator and the same operand. -/
def same (a b : Condition) : Bool :=
  a.operator == b.operator && a.operand.same b.operand

instance : BEq Condition := ⟨same⟩

end Condition

namespace Selector

/-- The selector that every value satisfies. -/
def matchAll : Selector := .combination .and []

/-- The operator of a selector; a field has the operator of its condition. -/
def operator : Selector → Operator
  | .combination combinator _ => .combine combinator
  | .not _ => .not
  | .field _ inner => inner.operator
  | .condition leaf => leaf.operator
  | .element quantifier _ => .element quantifier

mutual

/-- Sameness of selectors: one structure with the same conditions. -/
def same : Selector → Selector → Bool
  | .combination op as, .combination op' bs => op == op' && sameList as bs
  | .not a, .not b => a.same b
  | .field path a, .field path' b => path == path' && a.same b
  | .condition a, .condition b => a.same b
  | .element op a, .element op' b => op == op' && a.same b
  | _, _ => false

/-- Sameness of selectors one by one. -/
def sameList : List Selector → List Selector → Bool
  | [], [] => true
  | a :: as, b :: bs => a.same b && sameList as bs
  | _, _ => false

end

instance : BEq Selector := ⟨same⟩

end Selector

end DocQuery
