import DocQuery.Json.Cursor
import DocQuery.Number.Numeral
import DocQuery.Text.Utf8

/-!
# Decoding JSON text

The decoder reads bytes. It accepts one value with blanks around it, at most `maxDepth` arrays
and objects deep, and refuses any other text with a cause and a position. Bytes inside strings
must be UTF-8; of several members with one key the last one counts.
-/

namespace DocQuery.Json

/-- The number of arrays and objects that may be open at once. -/
def maxDepth : Nat := 127

namespace Cursor

/-- Whether a byte is a decimal digit. -/
def isDigit (byte : UInt8) : Bool := 48 ≤ byte && byte ≤ 57

/-- The value of a digit. -/
def digitValue (byte : UInt8) : Nat := byte.toNat - 48

/-- The digits at the start of a text. -/
def takeDigitsFrom : List UInt8 → Position → List Nat × Cursor
  | [], p => ([], ⟨[], p⟩)
  | byte :: rest, p =>
    if isDigit byte then
      let (digits, c) := takeDigitsFrom rest (stepOver p byte)
      (digitValue byte :: digits, c)
    else ([], ⟨byte :: rest, p⟩)

/-- The digits at the cursor. -/
def takeDigits (c : Cursor) : List Nat × Cursor := takeDigitsFrom c.rest c.position

/-- Whether the next byte is one of the given ones. -/
def sees (c : Cursor) (bytes : List UInt8) : Bool := c.peek.any bytes.contains

/-- Reads the rest of a word. -/
def readWord (c : Cursor) : List UInt8 → Decoding Cursor
  | [] => .ok c
  | expected :: word =>
    match c.peek with
    | none => c.fail .endInValue
    | some byte => if byte = expected then c.advance.readWord word else c.failNext .expectedWord

/-- Reads the digits before the point: a single zero, or digits that start with another one. -/
def readWhole (c : Cursor) : Decoding (List Nat × Cursor) :=
  match c.peek with
  | none => c.fail .endInValue
  | some byte =>
    if byte = 48 then
      if c.advance.peek.any isDigit then c.advance.failNext .invalidNumber
      else .ok ([0], c.advance)
    else if isDigit byte then .ok c.takeDigits
    else c.failNext .invalidNumber

/-- Reads a point and the digits after it, if there is a point. -/
def readFraction (c : Cursor) : Decoding (Option (List Nat) × Cursor) :=
  if c.sees [46] then
    match c.advance.takeDigits with
    | ([], after) =>
      if after.peek.isSome then after.failNext .invalidNumber else after.fail .endInValue
    | (digits, after) => .ok (some digits, after)
  else .ok (none, c)

/-- Exponents that need more than 31 bits begin here. -/
def exponentBound : Nat := 2147483648

/-- The number of leading digits after which the number they form needs more than 31 bits. -/
def lengthBeyondWord (value : Nat) : List Nat → Option Nat
  | [] => none
  | digit :: rest =>
    if exponentBound ≤ value * 10 + digit then some 1
    else (lengthBeyondWord (value * 10 + digit) rest).map (· + 1)

/-- Reads an exponent, if there is one. An exponent beyond 31 bits is refused at the digit that
makes it so, unless it is negative or scales a zero. -/
def readExponent (c : Cursor) (isZero : Bool) : Decoding (Option Int × Cursor) :=
  if c.sees [101, 69] then
    let signed := c.advance
    let negative := signed.sees [45]
    let first := if signed.sees [43, 45] then signed.advance else signed
    match first.takeDigits with
    | ([], _) =>
      if first.peek.isSome then first.failNext .invalidNumber else first.fail .endInValue
    | (digits, after) =>
      match lengthBeyondWord 0 digits with
      | some count =>
        if isZero || negative then
          .ok (some (if negative then -exponentBound else exponentBound), after)
        else (first.advanceBy count).fail .numberOutOfRange
      | none =>
        let value : Nat := digits.foldl (fun n digit => n * 10 + digit) 0
        .ok (some (if negative then -(value : Int) else value), after)
  else .ok (none, c)

/-- Reads a number after its sign. -/
def readNumber (c : Cursor) (negative : Bool) : Decoding (Number × Cursor) := do
  let (whole, c) ← c.readWhole
  let (fraction, c) ← c.readFraction
  let numeral : Numeral := ⟨negative, whole, fraction.getD [], fraction.isSome⟩
  let (exponent, c) ← c.readExponent (numeral.scaled.digits == 0)
  let numeral := { numeral with isReal := numeral.isReal || exponent.isSome }
  match numeral.number? (exponent.getD 0) with
  | some number => .ok (number, c)
  | none => c.fail .numberOutOfRange

/-- The value of a hexadecimal digit. -/
def hexValue? (byte : UInt8) : Option Nat :=
  if isDigit byte then some (digitValue byte)
  else if 97 ≤ byte && byte ≤ 102 then some (byte.toNat - 87)
  else if 65 ≤ byte && byte ≤ 70 then some (byte.toNat - 55)
  else none

/-- Reads the four hexadecimal digits of an escape. -/
def readHex (c : Cursor) : Decoding (Nat × Cursor) :=
  match c.rest with
  | a :: b :: d :: e :: _ =>
    let after := c.advanceBy 4
    match hexValue? a, hexValue? b, hexValue? d, hexValue? e with
    | some a, some b, some d, some e => .ok (((a * 16 + b) * 16 + d) * 16 + e, after)
    | _, _, _, _ => after.fail .invalidEscape
  | _ => (c.advanceBy 3).fail .endInString

/-- Refuses anything but the given byte next in the middle of a surrogate pair. -/
def readPaired (c : Cursor) (byte : UInt8) : Decoding Cursor :=
  if c.sees [byte] then .ok c.advance
  else if c.peek.isSome then c.failNext .unpairedEscape
  else c.fail .endInString

/-- Reads the code point of an escape after its letter, of a surrogate pair if it starts one. -/
def readCodePoint (c : Cursor) : Decoding (Char × Cursor) := do
  let (high, c) ← c.readHex
  if 0xDC00 ≤ high ∧ high ≤ 0xDFFF then c.fail .loneSurrogate
  else if high < 0xD800 ∨ 0xDBFF < high then .ok (Char.ofNat high, c)
  else
    let c ← c.readPaired 92
    let c ← c.readPaired 117
    let (low, c) ← c.readHex
    if low < 0xDC00 ∨ 0xDFFF < low then c.fail .loneSurrogate
    else .ok (Char.ofNat ((high - 0xD800) * 1024 + (low - 0xDC00) + 0x10000), c)

/-- Reads an escape after its backslash, giving the bytes it stands for. -/
def readEscape (c : Cursor) : Decoding (List UInt8 × Cursor) :=
  match c.peek with
  | none => c.fail .endInString
  | some byte =>
    let after := c.advance
    if byte = 34 || byte = 92 || byte = 47 then .ok ([byte], after)
    else if byte = 98 then .ok ([8], after)
    else if byte = 102 then .ok ([12], after)
    else if byte = 110 then .ok ([10], after)
    else if byte = 114 then .ok ([13], after)
    else if byte = 116 then .ok ([9], after)
    else if byte = 117 then do
      let (char, after) ← after.readCodePoint
      .ok ((String.singleton char).toUTF8.toList, after)
    else after.fail .invalidEscape

/-- Reads the bytes of a string up to its closing quote; each step reads at least one byte. -/
def readStringBytes : Nat → List UInt8 → Cursor → Decoding (List UInt8 × Cursor)
  | 0, _, c => c.fail .endInString
  | fuel + 1, read, c =>
    match c.peek with
    | none => c.fail .endInString
    | some byte =>
      if byte = 34 then .ok (read.reverse, c.advance)
      else if byte = 92 then do
        let (bytes, c) ← c.advance.readEscape
        readStringBytes fuel (bytes.reverse ++ read) c
      else if byte < 32 then c.failNext .controlCharacter
      else readStringBytes fuel (byte :: read) c.advance

/-- Reads a string after its opening quote. It is read to its end before its bytes are judged. The
position of bytes that are no text is counted back from that end by the bytes that the string
stands for, an escape being as long as its character. -/
def readString (c : Cursor) : Decoding (String × Cursor) := do
  let (bytes, after) ← readStringBytes (c.rest.length + 1) [] c
  match Utf8.decode? bytes with
  | some s => .ok (s, after)
  | none =>
    let unread := bytes.length - Utf8.validLength bytes
    let last := after.position
    .error ⟨.malformed .invalidCodePoint, ⟨last.line, last.column - unread⟩⟩

/-- Reads the items of an array up to its closing bracket; `first` before the first item. -/
def readItems (readValue : Cursor → Decoding (Json × Cursor)) :
    Nat → Bool → Cursor → Decoding (List Json × Cursor)
  | 0, _, c => c.fail .endInArray
  | fuel + 1, first, c =>
    let c := c.skipBlanks
    if c.sees [93] then .ok ([], c.advance)
    else if c.peek.isNone then c.fail .endInArray
    else if !first && !c.sees [44] then c.failNext .expectedItemSeparator
    else do
      let c := if first then c else c.advance.skipBlanks
      if !first && c.sees [93] then c.failNext .trailingComma
      else
        let (item, c) ← readValue c
        let (rest, c) ← readItems readValue fuel false c
        .ok (item :: rest, c)

/-- Reads the colon after a key. -/
def readColon (c : Cursor) : Decoding Cursor :=
  let c := c.skipBlanks
  if c.sees [58] then .ok c.advance
  else if c.peek.isSome then c.failNext .expectedColon
  else c.fail .endInObject

/-- Reads the members of an object up to its closing brace; `first` before the first member. -/
def readMembers (readValue : Cursor → Decoding (Json × Cursor)) :
    Nat → Bool → Cursor → Decoding (List (String × Json) × Cursor)
  | 0, _, c => c.fail .endInObject
  | fuel + 1, first, c =>
    let c := c.skipBlanks
    if c.sees [125] then .ok ([], c.advance)
    else if c.peek.isNone then c.fail .endInObject
    else if !first && !c.sees [44] then c.failNext .expectedMemberSeparator
    else do
      let c := if first then c else c.advance.skipBlanks
      if c.sees [34] then
        let (key, c) ← c.advance.readString
        let c ← c.readColon
        let (value, c) ← readValue c
        let (rest, c) ← readMembers readValue fuel false c
        .ok ((key, value) :: rest, c)
      else if c.peek.isNone then c.fail .endInValue
      else if !first && c.sees [125] then c.failNext .trailingComma
      else c.failNext .keyNotString

/-- Reads a value at a byte that is not a blank and opens neither an array nor an object. -/
def readScalar (c : Cursor) (byte : UInt8) : Decoding (Json × Cursor) :=
  if byte = 110 then return (.null, ← c.advance.readWord [117, 108, 108])
  else if byte = 116 then return (.bool true, ← c.advance.readWord [114, 117, 101])
  else if byte = 102 then return (.bool false, ← c.advance.readWord [97, 108, 115, 101])
  else if byte = 45 then do
    let (number, c) ← c.advance.readNumber true
    return (.num number, c)
  else if isDigit byte then do
    let (number, c) ← c.readNumber false
    return (.num number, c)
  else if byte = 34 then do
    let (s, c) ← c.advance.readString
    return (.str s, c)
  else c.failNext .expectedValue

/-- Reads an array or an object at its opening bracket, its values by `readValue`. -/
def readNested (readValue : Cursor → Decoding (Json × Cursor)) (c : Cursor) (byte : UInt8) :
    Decoding (Json × Cursor) :=
  if byte = 91 then do
    let (items, c) ← readItems readValue c.rest.length true c.advance
    return (.arr items, c)
  else do
    let (members, c) ← readMembers readValue c.rest.length true c.advance
    return (.obj (Entries.ofList members), c)

/-- Reads a value with at most the given number of arrays and objects open at once. -/
def readValue : Nat → Cursor → Decoding (Json × Cursor)
  | depth, c =>
    let c := c.skipBlanks
    match c.peek with
    | none => c.fail .endInValue
    | some byte =>
      if byte = 91 || byte = 123 then
        match depth with
        | 0 => c.failNext .tooDeep
        | depth + 1 => readNested (readValue depth) c byte
      else c.readScalar byte

/-- Accepts a result after which only blanks are left. -/
def finish {α : Type} (result : α × Cursor) : Decoding α :=
  let c := result.2.skipBlanks
  if c.peek.isSome then c.failNext .trailingCharacters else .ok result.1

end Cursor

open Cursor

/-- The first value of a text, and where the text goes on. -/
def decodeFirst (bytes : List UInt8) : Decoding (Json × Cursor) :=
  readValue maxDepth (Cursor.start bytes)

/-- The value that a text stands for. -/
def decode (bytes : List UInt8) : Decoding Json := do finish (← decodeFirst bytes)

/-- The value that a text stands for. -/
def decodeText (text : String) : Decoding Json := decode text.toUTF8.toList

/-- Refuses the value at the cursor, which is not of the expected shape. An array or an object is
refused where it opens, another value where it ends. -/
def refuseShape {α : Type} (c : Cursor) (expected : Shape) : Decoding α :=
  match c.peek with
  | none => c.fail .endInValue
  | some byte =>
    if byte = 91 then .error ⟨.mismatch (.type (.arr []) expected), c.position⟩
    else if byte = 123 then .error ⟨.mismatch (.type (.obj []) expected), c.position⟩
    else do
      let (found, c) ← c.readScalar byte
      .error ⟨.mismatch (.type found expected), c.position⟩

/-- The members of the object that a text stands for. -/
def decodeObject (text : String) : Decoding (KeyMap Json) := do
  let c := (Cursor.start text.toUTF8.toList).skipBlanks
  if c.sees [123] then
    let (members, c) ← readMembers (readValue (maxDepth - 1)) c.rest.length true c.advance
    finish (KeyMap.ofList members, c)
  else refuseShape c .map

/-- The items of the array that a text stands for. -/
def decodeArray (text : String) : Decoding (List Json) := do
  let c := (Cursor.start text.toUTF8.toList).skipBlanks
  if c.sees [91] then
    finish (← readItems (readValue (maxDepth - 1)) c.rest.length true c.advance)
  else refuseShape c .sequence

end DocQuery.Json
