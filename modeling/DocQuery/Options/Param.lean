import DocQuery.Json.Decode
import DocQuery.Json.Text
import DocQuery.Number.Spelled

/-!
# Option values

An option is given as a decoded JSON value or as JSON text that is decoded only where it is
needed. Readers of booleans, numbers and plain strings take decoded values alone.
-/

namespace DocQuery

/-- The value of an option. -/
inductive Param where
  /-- A decoded value. -/
  | decoded (value : Json)
  /-- JSON text. -/
  | encoded (text : String)

namespace Param

/-- The value, text being decoded. -/
def decode : Param → Json.Decoding Json
  | .decoded value => .ok value
  | .encoded text => Json.decodeText text

/-- The value, if it is decoded. -/
def value? : Param → Option Json
  | .decoded value => some value
  | .encoded _ => none

/-- The string, if the value is a decoded one. -/
def string? : Param → Option String
  | .decoded (.str s) => some s
  | _ => none

/-- How messages show a value: strings bare, other values as compact JSON, text as it is. -/
def text : Param → String
  | .decoded (.str s) => s
  | .decoded value => value.text
  | .encoded text => text

/-- Reads a boolean, given as one or by name. -/
def boolean? : Param → Option Bool
  | .decoded (.bool value) => some value
  | .decoded (.str "true") => some true
  | .decoded (.str "false") => some false
  | _ => none

/-- The integer of a binary64 number, if it is one of the signed 64-bit range. The ends of the range
are compared as binary64 numbers, and the greatest integer of the range rounds to the one after
it. -/
def integral? (x : Binary64) : Option Int :=
  if !x.isInteger || x.cmp (.ofInt (-Number.signedBound)) == .lt ||
      x.cmp (.ofInt (Number.signedBound - 1)) != .lt then none
  else some (clampSigned x.trunc)

/-- Reads a signed integer. A string may have a fraction, which is cut off; a number may not. -/
def signed? : Param → Option Int
  | .decoded (.num (.int n _)) => if n < Number.signedBound then some n else none
  | .decoded (.num (.float x)) => integral? x
  | .decoded (.str s) => Spelled.truncated? s
  | _ => none

/-- Reads an unsigned integer. -/
def unsigned? : Param → Option Nat
  | .decoded (.num (.int n _)) => if 0 ≤ n then some n.toNat else none
  | .decoded (.num (.float x)) => (integral? x).bind fun n => if 0 ≤ n then some n.toNat else none
  | .decoded (.str s) => Spelled.unsigned? s
  | _ => none

end Param

end DocQuery
