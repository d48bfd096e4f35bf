import DocQuery.Regex.LiteralSearch
import DocQuery.Regex.Meaning
import DocQuery.Regex.Parser
import DocQuery.Regex.Positions
import DocQuery.Regex.Size

/-!
# Compiled patterns

A pattern together with the expression it compiles to. There is one only if the pattern compiles.
-/

namespace DocQuery

namespace Regex

/-- The expression that a pattern stands for. -/
def read (pattern : String) : Except Failure Expression := do
  let tree ← parse pattern
  let (expression, _) ← tree.meaning .initial
  return expression

/-- Compiles a pattern. Unless it is a search for literals, its automata may not take too much
memory. -/
def compile (pattern : String) : Except Error Expression := do
  let expression ← (read pattern).mapError (.mistaken pattern)
  if expression.fits || expression.isLiteralSearch then return expression
  else throw (.tooBig sizeLimit)

end Regex

/-- A pattern that compiles. -/
structure Regex where
  pattern : String
  expression : Regex.Expression
  compile_pattern : Regex.compile pattern = .ok expression

namespace Regex

/-- Compiles a pattern. -/
def ofPattern (pattern : String) : Except Error Regex :=
  match h : compile pattern with
  | .ok expression => .ok ⟨pattern, expression, h⟩
  | .error error => .error error

/-- Whether a pattern can be found in a text. -/
def isMatch (regex : Regex) (text : String) : Bool := regex.expression.occursIn text

end Regex

end DocQuery
