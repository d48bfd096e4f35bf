import DocQuery.KeyMap
import DocQuery.Number

/-!
# JSON values

A decoded JSON value. Members of an object are kept in increasing order of their keys, each key
once; `Json.WellFormed` states it and the decoder establishes it.
-/

namespace DocQuery

/-- A JSON value. -/
inductive Json where
  | null
  | bool (value : Bool)
  | num (value : Number)
  | str (value : String)
  | arr (items : List Json)
  | obj (members : List (String × Json))

namespace Json

/-- The six kinds of JSON values. -/
inductive Kind where
  | null
  | boolean
  | number
  | string
  | array
  | object
  deriving DecidableEq, Repr

namespace Kind

/-- Every kind. -/
def all : List Kind := [.null, .boolean, .number, .string, .array, .object]

/-- The name of a kind. -/
def name : Kind → String
  | .null => "null"
  | .boolean => "boolean"
  | .number => "number"
  | .string => "string"
  | .array => "array"
  | .object => "object"

/-- The kind with a name. -/
def ofName? (name : String) : Option Kind := all.find? fun kind => kind.name == name

/-- Position of a kind in the order of values of different kinds. -/
def rank : Kind → Nat
  | .null => 0
  | .boolean => 1
  | .number => 2
  | .string => 3
  | .array => 4
  | .object => 5

end Kind

/-- The kind of a value. -/
def kind : Json → Kind
  | .null => .null
  | .bool _ => .boolean
  | .num _ => .number
  | .str _ => .string
  | .arr _ => .array
  | .obj _ => .object

/-- Whether a value is null. -/
def isNull : Json → Bool
  | .null => true
  | _ => false

/-- The member of an object with a key; null where there is none. -/
def member (key : String) : Json → Json
  | .obj members => (Entries.find? key members).getD .null
  | _ => .null

/-- The object with a single member. -/
def single (key : String) (value : Json) : Json := .obj [(key, value)]

mutual

/-- Whether the keys of every object inside a value increase strictly. -/
def WellFormed : Json → Prop
  | .arr items => WellFormedItems items
  | .obj members => Entries.Sorted members ∧ WellFormedMembers members
  | _ => True

/-- Whether every item is well formed. -/
def WellFormedItems : List Json → Prop
  | [] => True
  | item :: rest => item.WellFormed ∧ WellFormedItems rest

/-- Whether the value of every member is well formed. -/
def WellFormedMembers : List (String × Json) → Prop
  | [] => True
  | (_, value) :: rest => value.WellFormed ∧ WellFormedMembers rest

end

mutual

/-- Sameness of values: the same structure with the same numbers. -/
def same : Json → Json → Bool
  | .null, .null => true
  | .bool a, .bool b => a == b
  | .num a, .num b => a.same b
  | .str a, .str b => a == b
  | .arr a, .arr b => sameItems a b
  | .obj a, .obj b => sameMembers a b
  | _, _ => false

/-- Sameness of items, one by one. -/
def sameItems : List Json → List Json → Bool
  | [], [] => true
  | a :: as, b :: bs => a.same b && sameItems as bs
  | _, _ => false

/-- Sameness of members, one by one. -/
def sameMembers : List (String × Json) → List (String × Json) → Bool
  | [], [] => true
  | (j, a) :: as, (k, b) :: bs => j == k && a.same b && sameMembers as bs
  | _, _ => false

end

instance : BEq Json := ⟨same⟩

end Json

end DocQuery
