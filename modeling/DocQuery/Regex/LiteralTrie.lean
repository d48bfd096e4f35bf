import DocQuery.Regex.Growth

/-!
# Tries of literals

The extent of an automaton that reads one of several literals, the earlier ones first, and shares
the states of their common starts. A literal that ends where others go on divides those before it
from those after it: a state is shared only within one of these groups.
-/

namespace DocQuery.Regex.LiteralTrie

/-- Adds the rest of a literal to the literals that start with a byte. -/
def addRest (byte : UInt8) (rest : List UInt8) :
    List (UInt8 × List (List UInt8)) → List (UInt8 × List (List UInt8))
  | [] => [(byte, [rest])]
  | (other, rests) :: more =>
    if other = byte then (byte, rest :: rests) :: more else (other, rests) :: addRest byte rest more

/-- The rests of literals by their first bytes. -/
def byFirst (literals : List (List UInt8)) : List (UInt8 × List (List UInt8)) :=
  literals.foldr
    (fun literal groups =>
      match literal with
      | [] => groups
      | byte :: rest => addRest byte rest groups)
    []

/-- The groups of literals between those that end here. -/
def groups : List (List UInt8) → List (List (List UInt8))
  | [] => [[]]
  | [] :: rest => [] :: groups rest
  | literal :: rest =>
    match groups rest with
    | [] => [[literal]]
    | first :: more => (literal :: first) :: more

/-- Leaves out repetitions of a literal that ends here before any that goes on. -/
def dropRepeated : List (List UInt8) → List (List UInt8)
  | [] :: rest => [] :: rest.dropWhile List.isEmpty
  | literals => literals

/-- The extent of the states that read literals of at most a number of bytes. A group takes a state
for its first bytes, and a state leads to the groups and to the end of each literal that ends. -/
def extentFrom : Nat → List (List UInt8) → Extent
  | 0, _ => .zero
  | depth + 1, literals =>
    let groups := groups (dropRepeated literals)
    let filled := (groups.map byFirst).filter fun group => !group.isEmpty
    let branches := groups.length - 1 + filled.length
    filled.foldl (fun e group => e.add (groupExtent depth group)) (.fork branches)
where
  /-- The extent of the states for a group. -/
  groupExtent (depth : Nat) (group : List (UInt8 × List (List UInt8))) : Extent :=
    let first := if group.length = 1 then .plain 1 else .switch group.length
    group.foldl
      (fun e (_, rests) => if rests.all List.isEmpty then e else e.add (extentFrom depth rests))
      first

/-- The extent of an automaton that reads one of several literals. -/
def extent (literals : List (List UInt8)) : Extent :=
  let longest := (literals.map List.length).foldl max 0
  (Extent.plain 1).add (extentFrom (longest + 1) literals)

end DocQuery.Regex.LiteralTrie
