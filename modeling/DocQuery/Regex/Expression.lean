import DocQuery.Regex.Assertion

/-!
# Regular expressions

What a pattern means, whatever its syntax: characters to read, assertions about the place between
two characters, and their combinations.
-/

namespace DocQuery.Regex

/-- A regular expression. -/
inductive Expression where
  /-- Reads nothing. -/
  | empty
  /-- Reads the given characters in a row. -/
  | literal (chars : List Char)
  /-- Reads a character of a set, which may have been written under Unicode. -/
  | set (chars : CharSet) (unicode : Bool)
  /-- Reads nothing, at a place that is as said. -/
  | place (assertion : Assertion)
  /-- Reads as several expressions one after another. -/
  | seq (parts : List Expression)
  /-- Reads as one of several expressions. -/
  | alt (branches : List Expression)
  /-- Reads as an expression and keeps what it reads. -/
  | kept (inner : Expression)
  /-- Reads as an expression several times in a row, rather few times if it is reluctant. -/
  | times (least : Nat) (most : Option Nat) (reluctant : Bool) (inner : Expression)

namespace Expression

mutual

/-- Whether two expressions are the same. What is kept is kept apart, so that expressions which
keep something differ. -/
def same : Expression → Expression → Bool
  | .empty, .empty => true
  | .literal a, .literal b => a == b
  | .set a unicode, .set b unicode' => a == b && unicode == unicode'
  | .place a, .place b => a == b
  | .seq as, .seq bs => sameAll as bs
  | .alt as, .alt bs => sameAll as bs
  | .times least most reluctant a, .times least' most' reluctant' b =>
    least == least' && most == most' && reluctant == reluctant' && same a b
  | _, _ => false

/-- Whether two lists of expressions are the same. -/
def sameAll : List Expression → List Expression → Bool
  | [], [] => true
  | a :: as, b :: bs => same a b && sameAll as bs
  | _, _ => false

end

mutual

/-- Whether an expression is known to read no character, however it reads. -/
def readsNothing : Expression → Bool
  | .empty => true
  | .literal chars => chars.isEmpty
  | .set _ _ => false
  | .place _ => true
  | .seq parts => allReadNothing parts
  | .alt branches => allReadNothing branches
  | .kept inner => inner.readsNothing
  | .times _ most _ inner => most == some 0 || inner.readsNothing

/-- Whether several expressions read no character. -/
def allReadNothing : List Expression → Bool
  | [] => true
  | e :: rest => e.readsNothing && allReadNothing rest

end

mutual

/-- The number of characters that an expression reads at least, if it is known: an empty set reads
none at all. -/
def leastLength? : Expression → Option Nat
  | .empty => some 0
  | .literal chars => some chars.length
  | .set chars _ => if chars.ranges.isEmpty then none else some 1
  | .place _ => some 0
  | .seq parts => leastSum? parts
  | .alt branches => leastOf? branches
  | .kept inner => inner.leastLength?
  | .times least _ _ inner => inner.leastLength?.map (least * ·)

/-- The number of characters that several expressions read at least together. -/
def leastSum? : List Expression → Option Nat
  | [] => some 0
  | e :: rest => do return (← e.leastLength?) + (← leastSum? rest)

/-- The number of characters that each of several expressions reads at least. -/
def leastOf? : List Expression → Option Nat
  | [] => none
  | [e] => e.leastLength?
  | e :: rest => do return min (← e.leastLength?) (← leastOf? rest)

end

/-- The bytes of characters. -/
def utf8 (chars : List Char) : List UInt8 := (String.ofList chars).toUTF8.toList

/-- The bytes of an expression that is a literal. -/
def literal? : Expression → Option (List UInt8)
  | .literal chars => some (utf8 chars)
  | _ => none

end Expression

end DocQuery.Regex
