import DocQuery.Unicode.Age
import DocQuery.Unicode.Binary
import DocQuery.Unicode.Category
import DocQuery.Unicode.Classes
import DocQuery.Unicode.PropertyName
import DocQuery.Unicode.Script
import DocQuery.Unicode.Segmentation

/-!
# Unicode properties

The code points that a property asks for, by the name of a general category, a script or a binary
property, or by a property and a value of it.
-/

namespace DocQuery

/-- The value of hexadecimal digits in upper case. -/
def CodeRange.hexValue (digits : List Char) : Nat :=
  digits.foldl
    (fun n c => n * 16 + if c.isDigit then c.toNat - '0'.toNat else c.toNat - 'A'.toNat + 10) 0

/-- The range written as its ends with a dash between them, or as its only code point. -/
def CodeRange.ofChars (chars : List Char) : CodeRange :=
  let first := chars.takeWhile (· != '-')
  let last := chars.drop (first.length + 1)
  ⟨hexValue first, if last.isEmpty then hexValue first else hexValue last⟩

/-- The words of a text, with the word read so far, its last character first. -/
def CodeRange.words : List Char → List Char → List (List Char)
  | word, [] => if word.isEmpty then [] else [word.reverse]
  | word, c :: rest =>
    if c = ' ' then (if word.isEmpty then words [] rest else word.reverse :: words [] rest)
    else words (c :: word) rest

/-- The ranges written in lines of text with blanks between them. -/
def CodeRange.listOfLines (lines : List String) : List CodeRange :=
  lines.flatMap fun line => (words [] line.toList).map CodeRange.ofChars

namespace Unicode

/-- Why a property has no class. -/
inductive PropertyError where
  /-- There is no property or value of this name. -/
  | notFound
  /-- The property has no class for this value. -/
  | valueNotFound
  deriving DecidableEq, Repr

/-- The code points listed under names. -/
def rangesOf (table : List (String × List String)) (names : List String) : List CodeRange :=
  names.flatMap fun name => (table.lookup name).elim [] CodeRange.listOfLines

/-- The code points of decimal digits. -/
def digitRanges : List CodeRange := rangesOf categoryTable ["Nd"]

/-- The code points that words are made of: letters, marks, decimal digits, connectors and the
characters that join letters. -/
def wordRanges : List CodeRange :=
  rangesOf binaryTable ["Alphabetic", "Join_Control"] ++
    rangesOf categoryTable ["Mn", "Mc", "Me", "Nd", "Pc"]

/-- The ranges listed under a name. -/
def lookUp (table : List (String × List String)) (name : String) :
    Except PropertyError (List CodeRange) :=
  match table.lookup name with
  | some lines => .ok (CodeRange.listOfLines lines)
  | none => .error .valueNotFound

/-- The code points of a general category by its loose name, if there is one of this name. -/
def categoryRanges? (name : String) : Option (Except PropertyError (List CodeRange)) :=
  if name = "any" then some (.ok [⟨0, 0x10FFFF⟩])
  else if name = "ascii" then some (.ok [⟨0, 0x7F⟩])
  else if name = "assigned" then
    some (.ok (rangesOf categoryTable
      ((categoryTable.map Prod.fst).filter fun category => category != "Cn" && category != "Cs")))
  else if name = "cs" || name = "surrogate" then some (.error .valueNotFound)
  else (categoryNames.lookup name).map fun categories =>
    categories.flatMapM (lookUp categoryTable)

/-- The code points of a script by its loose name, if there is one of this name. -/
def scriptRanges? (name : String) : Option (Except PropertyError (List CodeRange)) :=
  (scriptNames.lookup name).map (lookUp scriptTable)

/-- The code points used by a script by its loose name, if there is one of this name. -/
def scriptExtensionRanges? (name : String) : Option (Except PropertyError (List CodeRange)) :=
  (scriptNames.lookup name).map fun script =>
    match lookUp scriptExtensionTable script with
    | .ok ranges => .ok ranges
    | .error _ => lookUp scriptTable script

/-- The code points assigned up to a version by its loose name. -/
def ageRanges (version : String) : Except PropertyError (List CodeRange) :=
  let upTo := ageTable.takeWhile fun (v, _) => looseName v != version && "v" ++ loose v != version
  match ageTable.drop upTo.length with
  | [] => .error .valueNotFound
  | last :: _ => .ok ((last :: upTo).flatMap fun (_, lines) => CodeRange.listOfLines lines)
where
  /-- A version without its point. -/
  loose (v : String) : String := String.ofList (v.toList.filter (· != '.'))

/-- The code points of a value of a segmentation property, by its loose or its short name. -/
def breakRanges (table : List (String × List String)) (short : List (String × String))
    (value : String) : Except PropertyError (List CodeRange) :=
  let value := (short.lookup value).getD value
  match table.find? fun (name, _) => looseName name == value with
  | some (_, lines) => .ok (CodeRange.listOfLines lines)
  | none => .error .valueNotFound

/-- Short names of the values of the cluster property. -/
def clusterBreakNames : List (String × String) := [
  ("cn", "control"), ("ex", "extend"), ("pp", "prepend"), ("ri", "regionalindicator"),
  ("sm", "spacingmark")]

/-- Short names of the values of the word property. -/
def wordBreakNames : List (String × String) := [
  ("dq", "doublequote"), ("ex", "extendnumlet"), ("fo", "format"), ("hl", "hebrewletter"),
  ("ka", "katakana"), ("le", "aletter"), ("mb", "midnumlet"), ("ml", "midletter"),
  ("mn", "midnum"), ("nl", "newline"), ("nu", "numeric"), ("ri", "regionalindicator"),
  ("sq", "singlequote")]

/-- Short names of the values of the sentence property. -/
def sentenceBreakNames : List (String × String) := [
  ("at", "aterm"), ("cl", "close"), ("ex", "extend"), ("fo", "format"), ("le", "oletter"),
  ("lo", "lower"), ("nu", "numeric"), ("sc", "scontinue"), ("se", "sep"), ("st", "sterm"),
  ("up", "upper")]

/-- The code points of a class with a name. Three short names of categories are also short names
of other properties and stand for the categories. -/
def namedRanges (name : String) : Except PropertyError (List CodeRange) :=
  let name := looseName name
  let isCategory := name = "cf" || name = "sc" || name = "lc"
  match if isCategory then none else binaryNames.lookup name with
  | some property => lookUp binaryTable property
  | none =>
    if !isCategory && (otherPropertyNames.contains name || valuedPropertyNames.contains name) then
      .error .notFound
    else ((categoryRanges? name).or (scriptRanges? name)).getD (.error .notFound)
where
  /-- The names of the properties that have classes by value only. -/
  valuedPropertyNames : List String := [
    "age", "gc", "gcb", "generalcategory", "graphemeclusterbreak", "sb", "script",
    "scriptextensions", "scx", "sentencebreak", "wb", "wordbreak"]

/-- The code points of a class given by a property and a value. -/
def valuedRanges (property value : String) : Except PropertyError (List CodeRange) :=
  let property := looseName property
  let value := looseName value
  if property = "gc" || property = "generalcategory" then
    (categoryRanges? value).getD (.error .valueNotFound)
  else if property = "sc" || property = "script" then
    (scriptRanges? value).getD (.error .valueNotFound)
  else if property = "scx" || property = "scriptextensions" then
    (scriptExtensionRanges? value).getD (.error .valueNotFound)
  else if property = "age" then ageRanges value
  else if property = "gcb" || property = "graphemeclusterbreak" then
    breakRanges clusterBreakTable clusterBreakNames value
  else if property = "wb" || property = "wordbreak" then
    breakRanges wordBreakTable wordBreakNames value
  else if property = "sb" || property = "sentencebreak" then
    breakRanges sentenceBreakTable sentenceBreakNames value
  else if otherPropertyNames.contains property || (binaryNames.lookup property).isSome then
    .error .valueNotFound
  else .error .notFound

end Unicode

end DocQuery
