import DocQuery.Proofs.Selector.RoundTrip

/-!
# Operands of selectors

The operator and the operand of a condition determine it, and the numbers in the JSON of a selector
are those in the operands of its conditions.
-/

namespace DocQuery

/-- A number occurs in the operand of a condition of a selector. -/
inductive Selector.Mentions (n : Number) : Selector → Prop
  | operand {leaf : Condition} (h : leaf.operand.Contains n) : Mentions n (.condition leaf)
  | child {combinator : Combinator} {children : List Selector} {child : Selector}
    (mem : child ∈ children) (h : Mentions n child) : Mentions n (.combination combinator children)
  | not {child : Selector} (h : Mentions n child) : Mentions n (.not child)
  | field {path : FieldPath} {inner : Selector} (h : Mentions n inner) :
    Mentions n (.field path inner)
  | element {quantifier : Quantifier} {inner : Selector} (h : Mentions n inner) :
    Mentions n (.element quantifier inner)

/-- The only number in an object of one member is in its value. -/
theorem Json.contains_single {n : Number} {key : String} {value : Json}
    (h : (Json.single key value).Contains n) : value.Contains n := by
  cases h with
  | member mem h =>
    rw [List.mem_singleton.mp mem] at h
    exact h

/-- The JSON of a selector has no other numbers than its operands. -/
theorem Selector.mentions_of_contains_toJson {n : Number} {selector : Selector}
    (h : selector.toJson.Contains n) : selector.Mentions n := by
  induction selector using inductionOn with
  | combination combinator children ih =>
    by_cases hempty : combinator = .and ∧ children = []
    · obtain ⟨rfl, rfl⟩ := hempty
      cases h with
      | member mem => exact absurd mem List.not_mem_nil
    · rw [toJson_combination combinator children hempty] at h
      cases Json.contains_single h with
      | item mem h =>
        obtain ⟨child, hchild, rfl⟩ := List.mem_map.mp mem
        exact .child hchild (ih child hchild h)
  | not child ih => exact .not (ih (Json.contains_single h))
  | field path inner ih => exact .field (ih (Json.contains_single h))
  | condition leaf => exact .operand (Json.contains_single h)
  | element quantifier inner ih => exact .element (ih (Json.contains_single h))

/-- Conditions with one operator and one operand are equal. -/
theorem Condition.eq_of_operand_eq {a b : Condition} (hop : a.operator = b.operator)
    (h : a.operand = b.operand) : a = b := by
  cases ha : a.operator with
  | compare comparison =>
    cases a <;> cases ha
    cases b <;> cases hop
    exact congrArg _ h
  | test test =>
    -- A test reads its operand back, and both conditions have one test and one operand.
    have hread : Except.ok (ε := Selector.ParseError) a = .ok b := by
      rw [← Selector.testCondition_operand ha, h, Selector.testCondition_operand (hop ▸ ha)]
    exact Except.ok.inj hread
  | _ => cases a <;> cases ha

end DocQuery
