import DocQuery.Json.Basic
import DocQuery.Text.Quoted

/-!
# Why a text or a value is refused

Three families of causes, each with its message: a text that is not JSON, a value that does not
have the expected shape, and either of them at a position of the text being decoded.
-/

namespace DocQuery.Json

/-- Why a text is not JSON. -/
inductive SyntaxCause where
  | endInArray
  | endInObject
  | endInString
  | endInValue
  | expectedColon
  | expectedItemSeparator
  | expectedMemberSeparator
  | expectedWord
  | expectedValue
  | invalidEscape
  | invalidNumber
  | numberOutOfRange
  | invalidCodePoint
  | controlCharacter
  | keyNotString
  | loneSurrogate
  | trailingComma
  | trailingCharacters
  | unpairedEscape
  | tooDeep
  deriving DecidableEq, Repr

/-- The message of a syntax error. -/
def SyntaxCause.message : SyntaxCause → String
  | .endInArray => "EOF while parsing a list"
  | .endInObject => "EOF while parsing an object"
  | .endInString => "EOF while parsing a string"
  | .endInValue => "EOF while parsing a value"
  | .expectedColon => "expected `:`"
  | .expectedItemSeparator => "expected `,` or `]`"
  | .expectedMemberSeparator => "expected `,` or `\x7d`"
  | .expectedWord => "expected ident"
  | .expectedValue => "expected value"
  | .invalidEscape => "invalid escape"
  | .invalidNumber => "invalid number"
  | .numberOutOfRange => "number out of range"
  | .invalidCodePoint => "invalid unicode code point"
  | .controlCharacter => "control character (\\u0000-\\u001F) found while parsing a string"
  | .keyNotString => "key must be a string"
  | .loneSurrogate => "lone leading surrogate in hex escape"
  | .trailingComma => "trailing comma"
  | .trailingCharacters => "trailing characters"
  | .unpairedEscape => "unexpected end of hex escape"
  | .tooDeep => "recursion limit exceeded"

/-- The shapes that values are decoded to. -/
inductive Shape where
  | boolean
  | string
  | sequence
  | map
  | unsigned
  | signed
  | pair
  | exhausted
  deriving DecidableEq, Repr

/-- How a message names an expected shape. -/
def Shape.name : Shape → String
  | .boolean => "a boolean"
  | .string => "a string"
  | .sequence => "a sequence"
  | .map => "a map"
  | .unsigned => "u64"
  | .signed => "i64"
  | .pair => "an array of length 2"
  | .exhausted => "fewer elements in array"

/-- How a message shows the value that was found. -/
def describe : Json → String
  | .null => "null"
  | .bool true => "boolean `true`"
  | .bool false => "boolean `false`"
  | .num (.int n _) => "integer `" ++ toString n ++ "`"
  | .num (.float x) => "floating point `" ++ x.text ++ "`"
  | .str s => "string " ++ Quoted.text s
  | .arr _ => "sequence"
  | .obj _ => "map"

/-- Why a value does not have an expected shape. -/
inductive Mismatch where
  /-- The value is of another type. -/
  | type (found : Json) (expected : Shape)
  /-- The value is an integer out of range. -/
  | value (found : Json) (expected : Shape)
  /-- The array has another number of items. -/
  | length (found : Nat) (expected : Shape)

/-- The message of a mismatch. -/
def Mismatch.message : Mismatch → String
  | .type found expected => "invalid type: " ++ found.describe ++ ", expected " ++ expected.name
  | .value found expected => "invalid value: " ++ found.describe ++ ", expected " ++ expected.name
  | .length found expected => "invalid length " ++ toString found ++ ", expected " ++ expected.name

/-- A position in a text: a line, counted from one, and the number of bytes before it there. -/
structure Position where
  line : Nat
  column : Nat
  deriving DecidableEq, Repr

/-- Why a text cannot be decoded. -/
inductive DecodeCause where
  | malformed (cause : SyntaxCause)
  | mismatch (cause : Mismatch)

/-- Why a text cannot be decoded, and where. -/
structure DecodeError where
  cause : DecodeCause
  position : Position

/-- A result of decoding. -/
abbrev Decoding (α : Type) := Except DecodeError α

/-- The message of a cause. -/
def DecodeCause.message : DecodeCause → String
  | .malformed cause => cause.message
  | .mismatch cause => cause.message

/-- A message followed by a position. -/
def Position.locate (p : Position) (message : String) : String :=
  message ++ " at line " ++ toString p.line ++ " column " ++ toString p.column

/-- The message of a decoding error. -/
def DecodeError.message (e : DecodeError) : String := e.position.locate e.cause.message

end DocQuery.Json
