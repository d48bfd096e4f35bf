import DocQuery.Regex.Combine

/-!
# The meaning of patterns

The expression that a syntax tree stands for, under settings that flags change up to the end of
their group.
-/

namespace DocQuery.Regex

/-- The characters that a dot stands for: all of them, or those that end no line. -/
def dotSet (s : Settings) : CharSet :=
  let excluded := if s.dotMatchesNewline then [] else if s.crlf then ['\n', '\r'] else ['\n']
  (CharSet.ofCodes (excluded.map Char.toNat)).complement

mutual

/-- The expression of a pattern, and the settings for what follows it. -/
def Tree.meaning (s : Settings) : Tree → Except Failure (Expression × Settings)
  | .empty _ => .ok (.empty, s)
  | .flags _ items => .ok (.empty, s.set items)
  | .literal lit => do
    return (.ofSet (s.closeCase (.single (← lit.meaning s))) s.unicode, s)
  | .dot span =>
    if s.unicode then .ok (.ofSet (dotSet s) true, s) else fail span .invalidUtf8
  | .anchor _ kind => .ok (.place (.ofAnchor s kind), s)
  | .charClass tree => do return (.ofSet (← tree.meaning s) s.unicode, s)
  | .repetition _ least most reluctant inner => do
    let (inner, s) ← inner.meaning s
    return (.repeated least most (reluctant != s.swapGreed) inner, s)
  | .group _ kept items inner => do
    let (inner, _) ← inner.meaning (s.set items)
    return (if kept then .kept inner else inner, s)
  | .alternation _ branches => do
    let (branches, s) ← Tree.meaningOfAll s branches
    return (.oneOf branches, s)
  | .concat _ parts => do
    let (parts, s) ← Tree.meaningOfAll s parts
    return (.sequence parts, s)

/-- The expressions of several patterns, each under the settings after the one before. -/
def Tree.meaningOfAll (s : Settings) : List Tree → Except Failure (List Expression × Settings)
  | [] => .ok ([], s)
  | tree :: rest => do
    let (first, s) ← tree.meaning s
    let (rest, s) ← meaningOfAll s rest
    return (first :: rest, s)

end

end DocQuery.Regex
