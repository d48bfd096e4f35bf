import DocQuery.Unicode.Unprintable

/-!
# Quoted text in messages

Messages show a text between double quotes. Quotes, backslashes and controls are written as
escapes, and so is every character without a form of its own, by its code point.
-/

namespace DocQuery.Quoted

/-- The code point of a character in lower-case hexadecimal. -/
def hex (c : Char) : List Char := Nat.toDigits 16 c.toNat

/-- How one character is shown. -/
def escape (c : Char) : List Char :=
  if c = '"' then ['\\', '"']
  else if c = '\\' then ['\\', '\\']
  else if c = '\t' then ['\\', 't']
  else if c = '\n' then ['\\', 'n']
  else if c = '\r' then ['\\', 'r']
  else if c.toNat = 0 then ['\\', '0']
  else if ' ' ≤ c ∧ c ≤ '~' then [c]
  else if c.toNat < 0x7F ∨ Unicode.isUnprintable c then
    ['\\', 'u', '\x7b'] ++ hex c ++ ['\x7d']
  else [c]

/-- A text between quotes. -/
def text (s : String) : String :=
  String.ofList ('"' :: s.toList.flatMap escape ++ ['"'])

end DocQuery.Quoted
