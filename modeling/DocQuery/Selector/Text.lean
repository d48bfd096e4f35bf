import DocQuery.Json.Text
import DocQuery.Selector.Basic

/-!
# Selectors as JSON

The JSON of a selector names every operator, implicit ones included; only the selector that every
value satisfies is the empty object. The normal form of a selector orders the selectors of every
combination by their texts, which takes away the order they were given in.
-/

namespace DocQuery.Selector

mutual

/-- The JSON of a selector. -/
def toJson : Selector → Json
  | .combination .and [] => .obj []
  | .combination combinator children =>
    .single (Operator.combine combinator).name (.arr (toJsonList children))
  | .not child => .single Operator.not.name child.toJson
  | .field path inner => .single path.name inner.toJson
  | .condition leaf => .single leaf.operator.name leaf.operand
  | .element quantifier inner => .single (Operator.element quantifier).name inner.toJson

/-- The JSON of each selector. -/
def toJsonList : List Selector → List Json
  | [] => []
  | selector :: rest => selector.toJson :: toJsonList rest

end

/-- The JSON text of a selector. -/
def text (selector : Selector) : String := selector.toJson.text

/-- Selectors in the order of their texts, those with one text in the order given. -/
def sortByText (selectors : List Selector) : List Selector :=
  let keyed := selectors.map fun selector => (selector.text, selector)
  (keyed.mergeSort fun a b => !decide (b.1 < a.1)).map Prod.snd

mutual

/-- The normal form of a selector. -/
def normalized : Selector → Selector
  | .combination combinator children =>
    .combination combinator (sortByText (normalizedList children))
  | .not child => .not child.normalized
  | .field path inner => .field path inner.normalized
  | .condition leaf => .condition leaf
  | .element quantifier inner => .element quantifier inner.normalized

/-- The normal form of each selector. -/
def normalizedList : List Selector → List Selector
  | [] => []
  | selector :: rest => selector.normalized :: normalizedList rest

end

end DocQuery.Selector
