import DocQuery.Collation.Weight
import DocQuery.Json.Basic

/-!
# Collation of JSON values

Texts are compared level by level: the primary weights of all their characters first, then the
secondary weights, then the tertiary weights, and last the code points. Only identical texts are
equal.

Values of different kinds are ordered null, booleans, numbers, strings, arrays, objects. Numbers
compare by value, strings by collation, arrays item by item. Objects compare member by member,
the members of both in collation order of their keys, key before value; a shorter array or object
that agrees so far comes first.
-/

namespace DocQuery

namespace Collation

/-- Lexicographic order of one level of two lists of weights. -/
def compareLevel (level : Weight → Nat) (v w : List Weight) : Ordering :=
  List.compareLex compare (v.map level) (w.map level)

/-- Collation order of texts given as characters. -/
def compareChars (a b : List Char) : Ordering :=
  let v := a.map weight
  let w := b.map weight
  (compareLevel Weight.primary v w).then <|
    (compareLevel Weight.secondary v w).then <|
      (compareLevel Weight.tertiary v w).then <|
        List.compareLex (fun c d => compare c.toNat d.toNat) a b

/-- Collation order of texts. -/
def compareText (a b : String) : Ordering := if a = b then .eq else compareChars a.toList b.toList

end Collation

mutual

/-- The value with the members of every object in collation order of their keys. -/
def Json.arranged : Json → Json
  | .arr items => .arr (arrangedItems items)
  | .obj members =>
    .obj ((arrangedMembers members).mergeSort fun a b => (Collation.compareText a.1 b.1).isLE)
  | value => value

/-- The items, each arranged. -/
def Json.arrangedItems : List Json → List Json
  | [] => []
  | item :: rest => item.arranged :: arrangedItems rest

/-- The members in the order given, each value arranged. -/
def Json.arrangedMembers : List (String × Json) → List (String × Json)
  | [] => []
  | (key, value) :: rest => (key, value.arranged) :: arrangedMembers rest

end

namespace Collation

mutual

/-- Order of two values whose members are arranged. -/
def compareArranged : Json → Json → Ordering
  | .bool a, .bool b => compare a b
  | .num a, .num b => a.cmp b
  | .str a, .str b => compareText a b
  | .arr a, .arr b => compareItems a b
  | .obj a, .obj b => compareMembers a b
  | a, b => compare a.kind.rank b.kind.rank

/-- Order of two lists of items. -/
def compareItems : List Json → List Json → Ordering
  | [], [] => .eq
  | [], _ :: _ => .lt
  | _ :: _, [] => .gt
  | a :: as, b :: bs => (compareArranged a b).then (compareItems as bs)

/-- Order of two lists of members. -/
def compareMembers : List (String × Json) → List (String × Json) → Ordering
  | [], [] => .eq
  | [], _ :: _ => .lt
  | _ :: _, [] => .gt
  | (j, a) :: as, (k, b) :: bs =>
    (compareText j k).then ((compareArranged a b).then (compareMembers as bs))

end

/-- Collation order of values. -/
def compareValue (a b : Json) : Ordering := compareArranged a.arranged b.arranged

end Collation

end DocQuery
