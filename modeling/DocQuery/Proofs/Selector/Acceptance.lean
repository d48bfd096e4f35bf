import DocQuery.Proofs.Selector.RoundTrip
import Mathlib.Tactic.SplitIfs

/-!
# Which values are selectors

The grammar of selectors, stated on JSON values with the names of operators written out: selectors
are objects, every member of which is well formed by itself. Reading accepts exactly this grammar.
Both directions are one induction over values, which also says what the condition of a field may
be.
-/

namespace DocQuery

/-! ### The grammar -/

/-- The operands of the tests of a value that are no comparisons. -/
inductive IsTestOperand : String → Json → Prop
  | present (expected : Bool) : IsTestOperand "$exists" (.bool expected)
  | kind {name : String}
    (known : name ∈ ["null", "boolean", "number", "string", "array", "object"]) :
    IsTestOperand "$type" (.str name)
  | list {op : String} (named : op ∈ ["$in", "$nin", "$all"]) (values : List Json) :
    IsTestOperand op (.arr values)
  | size (length : UInt64) : IsTestOperand "$size" (.num (.ofUInt64 length))
  | residue {divisor : Int64} (nonzero : divisor ≠ 0) (remainder : Int64) :
    IsTestOperand "$mod" (.arr [.num (.ofInt64 divisor), .num (.ofInt64 remainder)])
  | pattern {source : String} {regex : Regex} (compiles : Regex.ofPattern source = .ok regex) :
    IsTestOperand "$regex" (.str source)

mutual

/-- The values that are selectors. -/
inductive IsSelector : Json → Prop
  | object {members : List (String × Json)}
    (each : ∀ entry ∈ members, IsSelectorMember entry.1 entry.2) : IsSelector (.obj members)

/-- The members of selectors. -/
inductive IsSelectorMember : String → Json → Prop
  | combination {op : String} {items : List Json} (named : op ∈ ["$and", "$or", "$nor"])
    (each : ∀ item ∈ items, IsSelector item) : IsSelectorMember op (.arr items)
  | not {value : Json} (child : IsSelector value) : IsSelectorMember "$not" value
  | compare {op : String} (named : op ∈ ["$eq", "$ne", "$lt", "$lte", "$gt", "$gte"])
    (operand : Json) : IsSelectorMember op operand
  | field {name : String} {value : Json} (unreserved : name.toList.head? ≠ some '$')
    (condition : IsFieldCondition value) : IsSelectorMember name value

/-- The values of fields. -/
inductive IsFieldCondition : Json → Prop
  | value {value : Json} (notObject : value.kind ≠ .object) : IsFieldCondition value
  | empty : IsFieldCondition (.obj [])
  | compare {op : String} (named : op ∈ ["$eq", "$ne", "$lt", "$lte", "$gt", "$gte"])
    (operand : Json) : IsFieldCondition (.obj [(op, operand)])
  | test {op : String} {operand : Json} (shape : IsTestOperand op operand) :
    IsFieldCondition (.obj [(op, operand)])
  | element {op : String} {operand : Json}
    (named : op ∈ ["$elemMatch", "$allMatch", "$keyMapMatch"]) (child : IsSelector operand) :
    IsFieldCondition (.obj [(op, operand)])

end

/-! ### Names -/

namespace Operator

/-- A name is that of one operator at most. -/
theorem ofName?_eq_some_iff {name : String} {op : Operator} :
    ofName? name = some op ↔ name = op.name :=
  ⟨fun h => (name_of_ofName? h).symm, fun h => h ▸ ofName?_name op⟩

/-- The names of a family of operators are those that an operator of the family is found by. -/
theorem exists_ofName?_iff {α : Type} (family : α → Operator) {members : List α}
    (complete : ∀ a, a ∈ members) {name : String} :
    (∃ a, ofName? name = some (family a)) ↔ name ∈ members.map fun a => (family a).name := by
  simp only [ofName?_eq_some_iff, List.mem_map]
  exact exists_congr fun a => ⟨fun h => ⟨complete a, h.symm⟩, fun h => h.2.symm⟩

/-- The names of the combinations. -/
theorem exists_combine_iff {name : String} :
    (∃ combinator, ofName? name = some (.combine combinator)) ↔
      name ∈ ["$and", "$or", "$nor"] :=
  exists_ofName?_iff .combine fun combinator : Combinator =>
    show combinator ∈ [.and, .or, .nor] by cases combinator <;> decide

/-- The names of the comparisons. -/
theorem exists_compare_iff {name : String} :
    (∃ comparison, ofName? name = some (.compare comparison)) ↔
      name ∈ ["$eq", "$ne", "$lt", "$lte", "$gt", "$gte"] :=
  exists_ofName?_iff .compare fun comparison : Comparison =>
    show comparison ∈ [.eq, .ne, .lt, .lte, .gt, .gte] by cases comparison <;> decide

/-- The names of the tests of items and keys. -/
theorem exists_element_iff {name : String} :
    (∃ quantifier, ofName? name = some (.element quantifier)) ↔
      name ∈ ["$elemMatch", "$allMatch", "$keyMapMatch"] :=
  exists_ofName?_iff .element fun quantifier : Quantifier =>
    show quantifier ∈ [.someItem, .everyItem, .someKey] by cases quantifier <;> decide

end Operator

/-- The names of the kinds of values. -/
theorem Json.Kind.exists_ofName?_iff {name : String} :
    (∃ kind, ofName? name = some kind) ↔
      name ∈ ["null", "boolean", "number", "string", "array", "object"] := by
  change _ ↔ name ∈ all.map Kind.name
  rw [List.mem_map]
  refine exists_congr fun kind => ⟨fun h => ⟨by cases kind <;> decide, ?_⟩, fun h => ?_⟩
  · simpa using List.find?_some h
  · rw [← h.2, ofName?_name]

/-- A name is free for fields unless it begins with a dollar sign. -/
theorem Selector.isReserved_eq_false_iff {name : String} :
    isReserved name = false ↔ name.toList.head? ≠ some '$' := by
  rw [isReserved, beq_eq_false_iff_ne]

/-! ### Operands -/

/-- A pattern that compiles is kept. -/
theorem Regex.pattern_of_ofPattern {source : String} {regex : Regex}
    (h : ofPattern source = .ok regex) : regex.pattern = source := by
  unfold ofPattern at h
  split at h
  · cases h
    rfl
  · cases h

namespace Json

/-- Only a boolean is read as such. -/
theorem eq_bool_of_asBoolean {value : Json} {b : Bool} (h : value.asBoolean = .ok b) :
    value = .bool b := by
  cases value with
  | bool a => exact congrArg Json.bool (Except.ok.inj h)
  | _ => cases h

/-- Only a string is read as such. -/
theorem eq_str_of_asString {value : Json} {s : String} (h : value.asString = .ok s) :
    value = .str s := by
  cases value with
  | str t => exact congrArg Json.str (Except.ok.inj h)
  | _ => cases h

/-- Only a number that fits is read as an unsigned integer. -/
theorem eq_ofUInt64_of_asUnsigned {value : Json} {n : UInt64} (h : value.asUnsigned = .ok n) :
    value = .num (.ofUInt64 n) := by
  unfold asUnsigned at h
  split at h
  · rename_i k bounds
    simp only [Number.unsigned?] at h
    split_ifs at h with hk
    cases h
    have hlt : k.toNat < UInt64.size := by
      have := bounds.2
      omega
    have hvalue : ((UInt64.ofNat k.toNat).toNat : Int) = k := by
      rw [UInt64.toNat_ofNat_of_lt' hlt, Int.toNat_of_nonneg hk]
    simp only [Number.ofUInt64, hvalue]
  · cases h

/-- Only a number that fits is read as a signed integer. -/
theorem eq_ofInt64_of_asSigned {value : Json} {n : Int64} (h : value.asSigned = .ok n) :
    value = .num (.ofInt64 n) := by
  unfold asSigned at h
  split at h
  · rename_i k bounds
    simp only [Number.signed?] at h
    split_ifs at h with hk
    cases h
    have hvalue : (Int64.ofInt k).toInt = k := Int64.toInt_ofInt_of_le bounds.1 hk
    simp only [Number.ofInt64, hvalue]
  · cases h

/-- Only an array of two such numbers is read as a pair of signed integers. -/
theorem eq_arr_of_asSignedPair {value : Json} {pair : Int64 × Int64}
    (h : value.asSignedPair = .ok pair) :
    value = .arr [.num (.ofInt64 pair.1), .num (.ofInt64 pair.2)] := by
  unfold asSignedPair at h
  split at h
  · cases h
  · obtain ⟨_, -, h⟩ := bind_eq_ok_iff.mp h
    cases h
  · rename_i first second rest
    obtain ⟨a, ha, h⟩ := bind_eq_ok_iff.mp h
    obtain ⟨b, hb, h⟩ := bind_eq_ok_iff.mp h
    split at h
    · rename_i hrest
      cases h
      rw [eq_ofInt64_of_asSigned ha, eq_ofInt64_of_asSigned hb, List.isEmpty_iff.mp hrest]
    · cases h
  · cases h

end Json

/-- Every operand of a test is the operand of a condition. -/
theorem IsTestOperand.exists_condition {op : String} {value : Json} (h : IsTestOperand op value) :
    ∃ (leaf : Condition) (test : TestKind), leaf.operator = .test test ∧
      op = (Operator.test test).name ∧ value = leaf.operand := by
  cases h with
  | present expected => exact ⟨.present expected, .present, rfl, rfl, rfl⟩
  | @kind name known =>
    obtain ⟨kind, hkind⟩ := Json.Kind.exists_ofName?_iff.mpr known
    have hname : kind.name = name := by simpa using List.find?_some hkind
    exact ⟨.kind kind, .kind, rfl, rfl, congrArg Json.str hname.symm⟩
  | list named values =>
    simp only [List.mem_cons, List.not_mem_nil, or_false] at named
    rcases named with rfl | rfl | rfl
    · exact ⟨.oneOf values, .oneOf, rfl, rfl, rfl⟩
    · exact ⟨.noneOf values, .noneOf, rfl, rfl, rfl⟩
    · exact ⟨.allOf values, .allOf, rfl, rfl, rfl⟩
  | size length => exact ⟨.size length, .size, rfl, rfl, rfl⟩
  | residue nonzero remainder => exact ⟨.residue _ remainder nonzero, .residue, rfl, rfl, rfl⟩
  | @pattern source regex compiles =>
    have hsource : regex.pattern = source := Regex.pattern_of_ofPattern compiles
    exact ⟨.pattern regex, .pattern, rfl, rfl, congrArg Json.str hsource.symm⟩

namespace Selector

/-- What a test accepts is an operand of it. -/
theorem isTestOperand_of_testCondition {test : TestKind} {value : Json} {leaf : Condition}
    (h : testCondition test value = .ok leaf) : IsTestOperand (Operator.test test).name value := by
  cases test
  case present =>
    obtain ⟨expected, hvalue, -⟩ := bind_eq_ok_iff.mp h
    obtain rfl := Json.eq_bool_of_asBoolean (operand_eq_ok_iff.mp hvalue)
    exact .present expected
  case kind =>
    obtain ⟨name, hvalue, hkind⟩ := bind_eq_ok_iff.mp h
    rw [Json.eq_str_of_asString (operand_eq_ok_iff.mp hvalue)]
    split at hkind
    · exact .kind (Json.Kind.exists_ofName?_iff.mp ⟨_, ‹_›⟩)
    · cases hkind
  case size =>
    obtain ⟨length, hvalue, -⟩ := bind_eq_ok_iff.mp h
    rw [Json.eq_ofUInt64_of_asUnsigned (operand_eq_ok_iff.mp hvalue)]
    exact .size length
  case residue =>
    obtain ⟨pair, hvalue, hdivisor⟩ := bind_eq_ok_iff.mp h
    dsimp only at hdivisor
    split at hdivisor
    · cases hdivisor
    · rw [Json.eq_arr_of_asSignedPair (operand_eq_ok_iff.mp hvalue)]
      exact .residue ‹_› pair.2
  case pattern =>
    obtain ⟨source, hvalue, hcompiles⟩ := bind_eq_ok_iff.mp h
    rw [Json.eq_str_of_asString (operand_eq_ok_iff.mp hvalue)]
    split at hcompiles
    · exact .pattern ‹_›
    · cases hcompiles
  all_goals
    obtain ⟨values, hvalue, -⟩ := bind_eq_ok_iff.mp h
    obtain rfl := Json.eq_arr_of_asItems (operand_eq_ok_iff.mp hvalue)
    exact .list (by decide) values

/-! ### Reading accepts the grammar -/

/-- What is accepted of a value where a selector, the condition of a field or the selectors of a
combination are called for. -/
structure AcceptsGrammar (value : Json) : Prop where
  selector : (∃ s, ofJson value = .ok s) ↔ IsSelector value
  field : (∃ s, ofFieldValue value = .ok s) ↔ IsFieldCondition value
  combination : ∀ combinator, (∃ s, ofCombination combinator value = .ok s) ↔
    ∃ items, value = .arr items ∧ ∀ item ∈ items, IsSelector item

/-- An array is read as selectors exactly if each of its items is read as one. -/
theorem exists_ofItems_iff {items : List Json} :
    (∃ selectors, ofItems items = .ok selectors) ↔ ∀ item ∈ items, ∃ s, ofJson item = .ok s := by
  induction items with
  | nil => simp [ofItems]
  | cons item rest ih =>
    rw [List.forall_mem_cons, ← ih, ofItems]
    constructor
    · rintro ⟨selectors, h⟩
      obtain ⟨first, hfirst, h⟩ := bind_eq_ok_iff.mp h
      obtain ⟨others, hothers, -⟩ := bind_eq_ok_iff.mp h
      exact ⟨⟨first, hfirst⟩, others, hothers⟩
    · rintro ⟨⟨first, hfirst⟩, others, hothers⟩
      exact ⟨first :: others, by rw [hfirst, hothers]; rfl⟩

/-- An object is read as selectors exactly if each of its members is read as one. -/
theorem exists_ofMembers_iff {members : List (String × Json)} :
    (∃ selectors, ofMembers members = .ok selectors) ↔
      ∀ entry ∈ members, ∃ s, ofMember entry.1 entry.2 = .ok s := by
  induction members with
  | nil => simp [ofMembers]
  | cons entry rest ih =>
    rw [List.forall_mem_cons, ← ih, ofMembers_cons]
    constructor
    · rintro ⟨selectors, h⟩
      obtain ⟨first, hfirst, h⟩ := bind_eq_ok_iff.mp h
      obtain ⟨others, hothers, -⟩ := bind_eq_ok_iff.mp h
      exact ⟨⟨first, hfirst⟩, others, hothers⟩
    · rintro ⟨⟨first, hfirst⟩, others, hothers⟩
      exact ⟨first :: others, by rw [hfirst, hothers]; rfl⟩

/-- A member is accepted if it belongs to the grammar, given that its value is. -/
theorem exists_ofMember_iff {key : String} {value : Json} (h : AcceptsGrammar value) :
    (∃ s, ofMember key value = .ok s) ↔ IsSelectorMember key value := by
  constructor
  · rintro ⟨s, hs⟩
    rw [ofMember] at hs
    split at hs
    · rename_i combinator hop
      obtain ⟨items, rfl, hitems⟩ := (h.combination combinator).mp ⟨s, hs⟩
      exact .combination (Operator.exists_combine_iff.mp ⟨combinator, hop⟩) hitems
    · rename_i hop
      obtain ⟨child, hchild, -⟩ := map_eq_ok_iff.mp hs
      rw [Operator.ofName?_eq_some_iff.mp hop]
      exact .not (h.selector.mp ⟨child, mapError_eq_ok_iff.mp hchild⟩)
    · rename_i comparison hop
      exact .compare (Operator.exists_compare_iff.mp ⟨comparison, hop⟩) value
    · split at hs
      · cases hs
      · rename_i hname
        obtain ⟨inner, hinner, -⟩ := map_eq_ok_iff.mp hs
        exact .field (isReserved_eq_false_iff.mp (eq_false_of_ne_true hname))
          (h.field.mp ⟨inner, hinner⟩)
  · intro hmember
    cases hmember with
    | @combination _ items named each =>
      obtain ⟨combinator, hop⟩ := Operator.exists_combine_iff.mpr named
      simp only [ofMember, hop]
      exact (h.combination combinator).mpr ⟨items, rfl, each⟩
    | not child =>
      obtain ⟨s, hs⟩ := h.selector.mpr child
      exact ⟨.not s, by simp only [ofMember, hs]; rfl⟩
    | compare named =>
      obtain ⟨comparison, hop⟩ := Operator.exists_compare_iff.mpr named
      simp only [ofMember, hop]
      exact ⟨_, rfl⟩
    | field unreserved condition =>
      have hname := isReserved_eq_false_iff.mpr unreserved
      obtain ⟨inner, hinner⟩ := h.field.mpr condition
      simp only [ofMember, Operator.ofName?_of_not_isReserved hname, hname, hinner]
      exact ⟨_, rfl⟩

/-- The condition of a field is accepted if it belongs to the grammar, given that its operand
does. -/
theorem exists_ofFieldValue_single_iff {key : String} {operand : Json}
    (h : AcceptsGrammar operand) :
    (∃ s, ofFieldValue (.obj [(key, operand)]) = .ok s) ↔
      IsFieldCondition (.obj [(key, operand)]) := by
  constructor
  · rintro ⟨s, hs⟩
    rw [ofFieldValue] at hs
    split at hs
    · rename_i comparison hop
      exact .compare (Operator.exists_compare_iff.mp ⟨comparison, hop⟩) operand
    · rename_i test hop
      obtain ⟨leaf, hleaf, -⟩ := map_eq_ok_iff.mp hs
      rw [Operator.ofName?_eq_some_iff.mp hop]
      exact .test (isTestOperand_of_testCondition hleaf)
    · rename_i quantifier hop
      obtain ⟨inner, hinner, -⟩ := map_eq_ok_iff.mp hs
      exact .element (Operator.exists_element_iff.mp ⟨quantifier, hop⟩)
        (h.selector.mp ⟨inner, mapError_eq_ok_iff.mp hinner⟩)
    · cases hs
  · intro hcondition
    rw [ofFieldValue]
    cases hcondition with
    | value notObject => exact absurd rfl notObject
    | compare named =>
      obtain ⟨comparison, hop⟩ := Operator.exists_compare_iff.mpr named
      exact ⟨_, by rw [hop]⟩
    | test shape =>
      obtain ⟨leaf, test, hop, rfl, rfl⟩ := shape.exists_condition
      exact ⟨.condition leaf, by
        simp only [Operator.ofName?_name, testCondition_operand hop]
        rfl⟩
    | element named child =>
      obtain ⟨quantifier, hop⟩ := Operator.exists_element_iff.mpr named
      obtain ⟨inner, hinner⟩ := h.selector.mpr child
      exact ⟨.element quantifier inner, by rw [hop, hinner]; rfl⟩

/-- A value that is neither an array nor an object is only accepted as the value of a field. -/
theorem acceptsGrammar_of_scalar {value : Json} (harr : value.kind ≠ .array)
    (hobj : value.kind ≠ .object) : AcceptsGrammar value := by
  cases value with
  | arr => exact absurd rfl harr
  | obj => exact absurd rfl hobj
  | _ =>
    refine ⟨⟨?_, ?_⟩, ⟨fun _ => .value hobj, fun _ => ⟨_, rfl⟩⟩, fun combinator => ⟨?_, ?_⟩⟩
    · rintro ⟨s, ⟨⟩⟩
    · rintro ⟨⟩
    · rintro ⟨s, ⟨⟩⟩
    · rintro ⟨items, ⟨⟩, -⟩

/-- Reading accepts the grammar at every value. -/
theorem acceptsGrammar (value : Json) : AcceptsGrammar value := by
  induction value using Json.inductionOn with
  | arr items ih =>
    have hnot : ¬∃ s, ofJson (.arr items) = .ok s := by rintro ⟨s, ⟨⟩⟩
    have hobj : (Json.arr items).kind ≠ .object := by rintro ⟨⟩
    refine ⟨⟨fun h => absurd h hnot, ?_⟩, ⟨fun _ => .value hobj, fun _ => ⟨_, rfl⟩⟩,
      fun combinator => ?_⟩
    · rintro ⟨⟩
    have hitems : (∃ selectors, ofItems items = .ok selectors) ↔
        ∀ item ∈ items, IsSelector item := by
      rw [exists_ofItems_iff]
      exact forall₂_congr fun item hitem => (ih item hitem).selector
    constructor
    · rintro ⟨s, hs⟩
      obtain ⟨children, hchildren, -⟩ := map_eq_ok_iff.mp hs
      exact ⟨items, rfl, hitems.mp ⟨children, mapError_eq_ok_iff.mp hchildren⟩⟩
    · rintro ⟨_, ⟨⟩, each⟩
      obtain ⟨children, hchildren⟩ := hitems.mpr each
      exact ⟨.combination combinator children, by rw [ofCombination, hchildren]; rfl⟩
  | obj members ih =>
    have hmembers : (∃ selectors, ofMembers members = .ok selectors) ↔
        IsSelector (.obj members) := by
      rw [exists_ofMembers_iff]
      constructor
      · exact fun h => .object fun entry he => (exists_ofMember_iff (ih entry he)).mp (h entry he)
      · rintro ⟨each⟩ entry he
        exact (exists_ofMember_iff (ih entry he)).mpr (each entry he)
    refine ⟨?_, ?_, fun combinator => ⟨?_, ?_⟩⟩
    · rw [← hmembers, ofJson]
      constructor
      · rintro ⟨s, hs⟩
        obtain ⟨selectors, hselectors, -⟩ := map_eq_ok_iff.mp hs
        exact ⟨selectors, hselectors⟩
      · rintro ⟨selectors, hselectors⟩
        exact ⟨conjunction selectors, by rw [hselectors]; rfl⟩
    · rcases members with _ | ⟨⟨key, operand⟩, _ | ⟨second, rest⟩⟩
      · exact ⟨fun _ => .empty, fun _ => ⟨_, rfl⟩⟩
      · exact exists_ofFieldValue_single_iff (ih (key, operand) List.mem_cons_self)
      · constructor
        · rintro ⟨s, ⟨⟩⟩
        · rintro ⟨hkind⟩
          exact absurd rfl hkind
    · rintro ⟨s, ⟨⟩⟩
    · rintro ⟨items, ⟨⟩, -⟩
  | _ => exact acceptsGrammar_of_scalar (by rintro ⟨⟩) (by rintro ⟨⟩)

/-- A value is accepted as a selector exactly if it belongs to the grammar. -/
theorem reading_accepts_the_grammar (value : Json) :
    (∃ s, ofJson value = .ok s) ↔ IsSelector value := (acceptsGrammar value).selector

end Selector

end DocQuery
