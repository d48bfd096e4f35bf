import DocQuery.Json.Failure

/-!
# Values of an expected shape

Reads a decoded value as a boolean, a string, a list or an integer of 64 bits, or says why the
value is not one. A number with a fraction or an exponent is never an integer.
-/

namespace DocQuery.Json

/-- Reads a boolean. -/
def asBoolean : Json → Except Mismatch Bool
  | .bool value => .ok value
  | other => .error (.type other .boolean)

/-- Reads a string. -/
def asString : Json → Except Mismatch String
  | .str value => .ok value
  | other => .error (.type other .string)

/-- Reads the items of an array. -/
def asItems : Json → Except Mismatch (List Json)
  | .arr items => .ok items
  | other => .error (.type other .sequence)

/-- Reads an unsigned integer. -/
def asUnsigned (value : Json) : Except Mismatch UInt64 :=
  match value with
  | .num (.int n bounds) =>
    match (Number.int n bounds).unsigned? with
    | some n => .ok n
    | none => .error (.value value .unsigned)
  | other => .error (.type other .unsigned)

/-- Reads a signed integer. -/
def asSigned (value : Json) : Except Mismatch Int64 :=
  match value with
  | .num (.int n bounds) =>
    match (Number.int n bounds).signed? with
    | some n => .ok n
    | none => .error (.value value .signed)
  | other => .error (.type other .signed)

/-- Reads an array of two signed integers; the items are read before superfluous ones count. -/
def asSignedPair : Json → Except Mismatch (Int64 × Int64)
  | .arr [] => .error (.length 0 .pair)
  | .arr [first] => do
    let _ ← first.asSigned
    .error (.length 1 .pair)
  | .arr (first :: second :: rest) => do
    let first ← first.asSigned
    let second ← second.asSigned
    if rest.isEmpty then .ok (first, second)
    else .error (.length (rest.length + 2) .exhausted)
  | other => .error (.type other .pair)

end DocQuery.Json
