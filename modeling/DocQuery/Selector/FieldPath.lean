import DocQuery.Text.Reader

/-!
# Dotted field paths

A field name addresses a nested member by the keys on the way, separated by dots. A backslash
takes the character after it literally; at the end of the name it stands for itself.
-/

namespace DocQuery

namespace FieldPath

/-- Reads one character of a key: one after a backslash, a backslash at the end, or any other that
is not a dot. -/
def keyChar : Reader Char :=
  .firstOf [.after (.char '\\') .anyChar, .char '\\', .noneOf ['.', '\\']]

/-- Reads a key, which may be empty. -/
def key : Reader String := .foldMany keyChar String.push ""

/-- Reads the keys of a field name. -/
def keyList : Reader (List String) := .separated (.char '.') key

/-- The keys that a field name addresses. -/
def splitKeys (name : String) : List String := (keyList.readAll name.toList).getD [name]

end FieldPath

/-- A field name with the keys it addresses. -/
structure FieldPath where
  name : String
  keys : List String
  /-- The keys are those of the name. -/
  keys_eq : keys = FieldPath.splitKeys name
  deriving DecidableEq, Repr

namespace FieldPath

/-- The path of a field name. -/
def ofName (name : String) : FieldPath := ⟨name, splitKeys name, rfl⟩

/-- A path is determined by its name. -/
theorem eq_ofName (path : FieldPath) : path = ofName path.name := by
  obtain ⟨name, keys, rfl⟩ := path
  rfl

/-- A key between quotes, its quotes and backslashes escaped by a backslash. -/
def quoteKey (key : String) : List Char :=
  '"' :: key.toList.flatMap (fun c => if c = '"' ∨ c = '\\' then ['\\', c] else [c]) ++ ['"']

/-- The path as a JSON path expression with quoted keys. -/
def toJsonPath (path : FieldPath) : String :=
  String.ofList ('$' :: path.keys.flatMap fun key => '.' :: quoteKey key)

end FieldPath

end DocQuery
