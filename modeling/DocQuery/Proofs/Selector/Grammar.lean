import DocQuery.Proofs.Json.Induction
import DocQuery.Proofs.Steps
import DocQuery.Selector.Parse
import DocQuery.Selector.Text

/-!
# The grammar of selectors

Which selectors a value can stand for, stated on the selectors themselves. Outside of fields there
are combinations, negations, fields and comparisons; the condition of a field is a single condition
or a selector applied to items or keys.
-/

namespace DocQuery

/-- A condition whose operand can be evaluated: no division by zero, no pattern that does not
compile. -/
def Condition.WellFormed : Condition → Prop
  | .residue divisor _ _ => divisor ≠ 0
  | .pattern regex => Regex.compile regex.pattern = .ok regex.expression
  | _ => True

/-- The type of conditions admits well-formed ones only. -/
theorem Condition.wellFormed (c : Condition) : c.WellFormed := by
  cases c with
  | residue divisor remainder divisor_ne_zero => exact divisor_ne_zero
  | pattern regex => exact regex.compile_pattern
  | _ => trivial

namespace Selector

mutual

/-- Whether a selector has a place outside of fields. -/
def WellFormed : Selector → Prop
  | .combination _ children => WellFormedList children
  | .not child => child.WellFormed
  | .field path inner =>
    isReserved path.name = false ∧ path.keys = FieldPath.splitKeys path.name ∧
      inner.WellFormedInField
  | .condition leaf => ∃ comparison operand, leaf = .compare comparison operand
  | .element _ _ => False

/-- Whether every selector has a place outside of fields. -/
def WellFormedList : List Selector → Prop
  | [] => True
  | selector :: rest => selector.WellFormed ∧ WellFormedList rest

/-- Whether a selector can be the condition of a field. -/
def WellFormedInField : Selector → Prop
  | .condition leaf => leaf.WellFormed
  | .element _ inner => inner.WellFormed
  | _ => False

end

/-- Induction over selectors: combinations inherit from their children. -/
theorem inductionOn {motive : Selector → Prop} (selector : Selector)
    (combination : ∀ combinator children, (∀ child ∈ children, motive child) →
      motive (.combination combinator children))
    (not : ∀ child, motive child → motive (.not child))
    (field : ∀ path inner, motive inner → motive (.field path inner))
    (condition : ∀ leaf, motive (.condition leaf))
    (element : ∀ quantifier inner, motive inner → motive (.element quantifier inner)) :
    motive selector := by
  match selector with
  | .combination combinator children =>
    exact combination combinator children fun child _ =>
      inductionOn child combination not field condition element
  | .not child => exact not child (inductionOn child combination not field condition element)
  | .field path inner =>
    exact field path inner (inductionOn inner combination not field condition element)
  | .condition leaf => exact condition leaf
  | .element quantifier inner =>
    exact element quantifier inner (inductionOn inner combination not field condition element)
termination_by sizeOf selector

/-- Several selectors are well formed exactly if each of them is. -/
theorem wellFormedList_iff (selectors : List Selector) :
    WellFormedList selectors ↔ ∀ selector ∈ selectors, selector.WellFormed := by
  induction selectors with
  | nil => simp [WellFormedList]
  | cons selector rest ih => simp [WellFormedList, ih]

/-- A combination is well formed exactly if its selectors are. -/
@[simp] theorem wellFormed_combination (combinator : Combinator) (children : List Selector) :
    (combination combinator children).WellFormed ↔ ∀ child ∈ children, child.WellFormed := by
  rw [WellFormed, wellFormedList_iff]

/-- Selectors are written one by one. -/
theorem toJsonList_eq_map (selectors : List Selector) :
    toJsonList selectors = selectors.map toJson := by
  induction selectors with
  | nil => rfl
  | cons selector rest ih => rw [toJsonList, ih, List.map_cons]

/-- Only the conjunction of nothing has a JSON of its own. -/
theorem toJson_combination (combinator : Combinator) (children : List Selector)
    (h : ¬(combinator = .and ∧ children = [])) :
    (combination combinator children).toJson =
      .single (Operator.combine combinator).name (.arr (children.map toJson)) := by
  rw [← toJsonList_eq_map]
  cases combinator <;> cases children <;> first | rfl | exact absurd ⟨rfl, rfl⟩ h

end Selector

namespace Operator

/-- Every operator is found by its name. -/
@[simp] theorem ofName?_name (op : Operator) : ofName? op.name = some op := by
  have hall : ∀ other ∈ all, ofName? other.name = some other := by decide
  exact hall op op.mem_all

/-- The name of an operator is kept for operators. -/
theorem isReserved_name (op : Operator) : Selector.isReserved op.name = true := by
  have hall : ∀ other ∈ all, Selector.isReserved other.name = true := by decide
  exact hall op op.mem_all

/-- An operator found by a name has that name. -/
theorem name_of_ofName? {name : String} {op : Operator} (h : ofName? name = some op) :
    op.name = name := by
  simpa using List.find?_some h

/-- A field is never taken for an operator. -/
theorem ofName?_of_not_isReserved {name : String} (h : Selector.isReserved name = false) :
    ofName? name = none := by
  cases ho : ofName? name with
  | none => rfl
  | some op =>
    rw [← name_of_ofName? ho, isReserved_name] at h
    cases h

end Operator

/-- Every kind is found by its name. -/
@[simp] theorem Json.Kind.ofName?_name (kind : Json.Kind) : ofName? kind.name = some kind := by
  cases kind <;> decide

end DocQuery
