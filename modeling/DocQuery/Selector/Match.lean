import DocQuery.Collation.Value
import DocQuery.Number.Spelled
import DocQuery.Selector.Basic

/-!
# Matching

Whether a value satisfies a selector. Matching never fails: a test that does not apply to the
value it meets is not satisfied, and a field that cannot be reached reads as null.
-/

namespace DocQuery

/-- Whether an order is as a comparison asks. -/
def Comparison.holds : Comparison → Ordering → Bool
  | .eq, o => o == .eq
  | .ne, o => o != .eq
  | .lt, o => o == .lt
  | .lte, o => o != .gt
  | .gt, o => o == .gt
  | .gte, o => o != .lt

namespace Json

/-- The value at a field of a value. -/
def reach (value : Json) (keys : List String) : Json :=
  keys.foldl (fun current key => current.member key) value

/-- Whether one of several values is equal to a value in collation order. -/
def hasEqual (values : List Json) (value : Json) : Bool :=
  values.any fun other => Collation.compareValue other value == .eq

/-- The integer that remainders are taken of, for a number without a fraction. An integer beyond
the signed 64-bit range counts as the nearest end of the range. -/
def integral? : Json → Option Int
  | .num n =>
    match n.signed? with
    | some value => some value.toInt
    | none => (n.toBinary64.toInt?).map clampSigned
  | _ => none

end Json

/-- Whether a value satisfies a condition. -/
def Condition.isSatisfiedBy : Condition → Json → Bool
  | .compare comparison operand, value => comparison.holds (Collation.compareValue value operand)
  | .present expected, value => !value.isNull == expected
  | .kind expected, value => value.kind == expected
  | .oneOf values, value => Json.hasEqual values value
  | .noneOf values, value => !Json.hasEqual values value
  | .size length, .arr items => items.length == length.toNat
  | .size _, _ => false
  | .residue divisor remainder _, value =>
    value.integral?.any fun n => n.tmod divisor.toInt == remainder.toInt
  | .pattern regex, .str s => regex.isMatch s
  | .pattern _, _ => false
  | .allOf values, .arr items => values.all fun value => Json.hasEqual items value
  | .allOf _, _ => false

namespace Selector

mutual

/-- Whether a value satisfies a selector. -/
def isSatisfiedBy : Selector → Json → Bool
  | .combination .and children, value => allSatisfiedBy children value
  | .combination .or children, value => anySatisfiedBy children value
  | .combination .nor children, value => !anySatisfiedBy children value
  | .not child, value => !child.isSatisfiedBy value
  | .field path inner, value => inner.isSatisfiedBy (value.reach path.keys)
  | .condition leaf, value => leaf.isSatisfiedBy value
  | .element .someItem inner, .arr items => items.any fun item => inner.isSatisfiedBy item
  | .element .everyItem inner, .arr items => items.all fun item => inner.isSatisfiedBy item
  | .element .someKey inner, .obj members =>
    members.any fun entry => inner.isSatisfiedBy (.str entry.1)
  | .element _ _, _ => false

/-- Whether a value satisfies every selector. -/
def allSatisfiedBy : List Selector → Json → Bool
  | [], _ => true
  | selector :: rest, value => selector.isSatisfiedBy value && allSatisfiedBy rest value

/-- Whether a value satisfies some selector. -/
def anySatisfiedBy : List Selector → Json → Bool
  | [], _ => false
  | selector :: rest, value => selector.isSatisfiedBy value || anySatisfiedBy rest value

end

end Selector

end DocQuery
