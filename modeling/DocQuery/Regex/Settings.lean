import DocQuery.Regex.Syntax

/-!
# Settings

The settings that flags change and that the meaning of a pattern depends on.
-/

namespace DocQuery.Regex

/-- How the parts of a pattern are understood. -/
structure Settings where
  caseInsensitive : Bool
  multiLine : Bool
  dotMatchesNewline : Bool
  /-- Whether repetitions are reluctant unless they are said to be. -/
  swapGreed : Bool
  unicode : Bool
  crlf : Bool
  deriving DecidableEq, Repr

namespace Settings

/-- The settings at the start of a pattern. -/
def initial : Settings := ⟨false, false, false, false, true, false⟩

/-- The settings after a list of flags. -/
def set (s : Settings) (items : List FlagItem) : Settings where
  caseInsensitive := (FlagItem.state? .caseInsensitive items).getD s.caseInsensitive
  multiLine := (FlagItem.state? .multiLine items).getD s.multiLine
  dotMatchesNewline := (FlagItem.state? .dotMatchesNewline items).getD s.dotMatchesNewline
  swapGreed := (FlagItem.state? .swapGreed items).getD s.swapGreed
  unicode := (FlagItem.state? .unicode items).getD s.unicode
  crlf := (FlagItem.state? .crlf items).getD s.crlf

end Settings

end DocQuery.Regex
