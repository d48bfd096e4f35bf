import DocQuery.Json.Decode
import DocQuery.Json.Operand
import DocQuery.Selector.Basic

/-!
# Selectors from JSON

A selector is an object. Its members are combinations, negations, comparisons of the value itself
and fields; several members are a conjunction, in the order of their keys. The value of a field is
a condition: an object with one operator, or any other value to be equal to. The first member that
is not well formed is the one reported, under the operators around it.
-/

namespace DocQuery

namespace Selector

/-- Why a value is not a selector. -/
inductive ParseError where
  /-- The text is not JSON. -/
  | undecodable (error : Json.DecodeError)
  /-- A selector is not an object. -/
  | notObject (found : Json.Kind)
  /-- The selectors of a combination are not an array. -/
  | notArray (found : Json.Kind)
  /-- A member names an operator that has no place there. -/
  | unknownOperator (name : String)
  /-- The operator of a condition has no place there. -/
  | invalidOperator (name : String)
  /-- A condition has several members. -/
  | tooManyKeys
  /-- An operand has the wrong shape. -/
  | mismatch (cause : Json.Mismatch)
  /-- There is no kind of this name. -/
  | invalidKind (name : String)
  /-- A divisor is zero. -/
  | zeroDivisor
  /-- A pattern does not compile. -/
  | badPattern (error : Regex.Error)
  /-- Something is wrong inside an operator. -/
  | within (operator : Operator) (error : ParseError)

/-- The message of an error: the operators around it, outermost first, and what is wrong. -/
def ParseError.message : ParseError → String
  | .undecodable error => error.message
  | .notObject found => "invalid type: " ++ found.name ++ ", expected a selector object"
  | .notArray found => "invalid type: " ++ found.name ++ ", expected an array of selectors"
  | .unknownOperator name => "unknown operator " ++ name
  | .invalidOperator name => "invalid operator " ++ name
  | .tooManyKeys => "too many keys in object"
  | .mismatch cause => cause.message
  | .invalidKind name => "invalid type name " ++ Quoted.text name
  | .zeroDivisor => "divisor must be non-zero"
  | .badPattern error => error.message
  | .within operator error => operator.name ++ ": " ++ error.message

/-- Puts an operator around an error. -/
def withinOperator {α : Type} (operator : Operator) (result : Except ParseError α) :
    Except ParseError α :=
  result.mapError (.within operator)

/-- Reads an operand of an expected shape. -/
def operand {α : Type} (operator : Operator) (result : Except Json.Mismatch α) :
    Except ParseError α :=
  withinOperator operator (result.mapError .mismatch)

/-- The condition of a test with an operand. -/
def testCondition (test : TestKind) (value : Json) : Except ParseError Condition :=
  let operator := Operator.test test
  match test with
  | .present => return .present (← operand operator value.asBoolean)
  | .kind => do
    let name ← operand operator value.asString
    match Json.Kind.ofName? name with
    | some kind => return .kind kind
    | none => .error (.within operator (.invalidKind name))
  | .oneOf => return .oneOf (← operand operator value.asItems)
  | .noneOf => return .noneOf (← operand operator value.asItems)
  | .size => return .size (← operand operator value.asUnsigned)
  | .residue => do
    let (divisor, remainder) ← operand operator value.asSignedPair
    if h : divisor = 0 then .error (.within operator .zeroDivisor)
    else return .residue divisor remainder h
  | .pattern => do
    let pattern ← operand operator value.asString
    match Regex.ofPattern pattern with
    | .ok regex => return .pattern regex
    | .error error => .error (.within operator (.badPattern error))
  | .allOf => return .allOf (← operand operator value.asItems)

/-- Whether a key is kept for operators. -/
def isReserved (key : String) : Bool := key.toList.head? == some '$'

/-- One selector as it is, several as a conjunction. -/
def conjunction : List Selector → Selector
  | [selector] => selector
  | selectors => .combination .and selectors

mutual

/-- The selector that a value stands for. -/
def ofJson : Json → Except ParseError Selector
  | .obj members => conjunction <$> ofMembers members
  | other => .error (.notObject other.kind)

/-- The selectors that the members of an object stand for. -/
def ofMembers : List (String × Json) → Except ParseError (List Selector)
  | [] => .ok []
  | (key, value) :: rest => do
    let selector ← match Operator.ofName? key with
      | some (.combine combinator) => ofCombination combinator value
      | some .not => .not <$> withinOperator .not (ofJson value)
      | some (.compare comparison) => .ok (.condition (.compare comparison value))
      | _ =>
        if isReserved key then .error (.unknownOperator key)
        else .field (.ofName key) <$> ofFieldValue value
    return selector :: (← ofMembers rest)

/-- The combination of the selectors in an array. -/
def ofCombination (combinator : Combinator) : Json → Except ParseError Selector
  | .arr items => .combination combinator <$> withinOperator (.combine combinator) (ofItems items)
  | other => .error (.within (.combine combinator) (.notArray other.kind))

/-- The selectors that the items of an array stand for. -/
def ofItems : List Json → Except ParseError (List Selector)
  | [] => .ok []
  | item :: rest => return (← ofJson item) :: (← ofItems rest)

/-- The condition that the value of a field stands for. -/
def ofFieldValue : Json → Except ParseError Selector
  | .obj [] => .ok (.condition (.compare .eq (.obj [])))
  | .obj [(key, operand)] =>
    match Operator.ofName? key with
    | some (.compare comparison) => .ok (.condition (.compare comparison operand))
    | some (.test test) => .condition <$> testCondition test operand
    | some (.element quantifier) =>
      .element quantifier <$> withinOperator (.element quantifier) (ofJson operand)
    | _ => .error (.invalidOperator key)
  | .obj (_ :: _ :: _) => .error .tooManyKeys
  | other => .ok (.condition (.compare .eq other))

end

/-- The selector that a JSON text stands for. -/
def parse (bytes : List UInt8) : Except ParseError Selector := do
  ofJson (← (Json.decode bytes).mapError .undecodable)

end Selector

end DocQuery
