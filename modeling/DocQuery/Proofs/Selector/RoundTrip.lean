import DocQuery.Proofs.Selector.Grammar

/-!
# Reading and writing selectors

The JSON of a well-formed selector stands for that selector, and every selector that a value stands
for is well formed. Both are inductions with a statement for the two places that a selector can
have, outside of a field and as the condition of one.
-/

namespace DocQuery

/-! ### Operands -/

/-- An unsigned integer is read as itself. -/
theorem Number.unsigned?_ofUInt64 (n : UInt64) : (Number.ofUInt64 n).unsigned? = some n := by
  simp [Number.ofUInt64, Number.unsigned?]

/-- A signed integer is read as itself. -/
theorem Number.signed?_ofInt64 (n : Int64) : (Number.ofInt64 n).signed? = some n := by
  have hlt : n.toInt < Number.signedBound := n.toInt_lt
  simp [Number.ofInt64, Number.signed?, hlt]

/-- The JSON of an unsigned integer is read as the integer. -/
theorem Json.asUnsigned_ofUInt64 (n : UInt64) : (Json.num (.ofUInt64 n)).asUnsigned = .ok n := by
  have h := Number.unsigned?_ofUInt64 n
  unfold Number.ofUInt64 at h ⊢
  simp only [Json.asUnsigned, h]

/-- The JSON of a signed integer is read as the integer. -/
theorem Json.asSigned_ofInt64 (n : Int64) : (Json.num (.ofInt64 n)).asSigned = .ok n := by
  have h := Number.signed?_ofInt64 n
  unfold Number.ofInt64 at h ⊢
  simp only [Json.asSigned, h]

/-- Only an array is read as its items. -/
theorem Json.eq_arr_of_asItems {value : Json} {items : List Json} (h : value.asItems = .ok items) :
    value = .arr items := by
  cases value with
  | arr values =>
    cases h
    rfl
  | _ => cases h

/-- A pattern that compiled compiles again, to the same expression. -/
theorem Regex.ofPattern_pattern (regex : Regex) : Regex.ofPattern regex.pattern = .ok regex := by
  obtain ⟨pattern, expression, hcompile⟩ := regex
  unfold Regex.ofPattern
  split
  · rename_i other h
    obtain rfl : expression = other := Except.ok.inj (hcompile.symm.trans h)
    rfl
  · rename_i error h
    cases hcompile.symm.trans h

namespace Selector

/-- An operand that is accepted was of the expected shape. -/
theorem operand_eq_ok_iff {α : Type} {operator : Operator} {result : Except Json.Mismatch α}
    {a : α} : Selector.operand operator result = .ok a ↔ result = .ok a := by
  rw [Selector.operand, withinOperator, mapError_eq_ok_iff, mapError_eq_ok_iff]

/-- An operand of the expected shape is accepted. -/
theorem operand_ok {α : Type} (operator : Operator) (a : α) :
    Selector.operand operator (.ok a) = pure a := operand_eq_ok_iff.mpr rfl

/-- The operand of a test stands for the test. -/
theorem testCondition_operand {leaf : Condition} {test : TestKind}
    (h : leaf.operator = .test test) : testCondition test leaf.operand = .ok leaf := by
  cases leaf <;> cases h
  case present expected => rfl
  case kind expected =>
    simp only [testCondition, Condition.operand, Json.asString]
    rw [operand_ok, pure_bind, Json.Kind.ofName?_name]
    rfl
  case oneOf values => rfl
  case noneOf values => rfl
  case allOf values => rfl
  case size length =>
    simp only [testCondition, Condition.operand, Json.asUnsigned_ofUInt64]
    rfl
  case residue divisor remainder hne =>
    simp only [testCondition, Condition.operand, Json.asSignedPair, Json.asSigned_ofInt64]
    exact dif_neg hne
  case pattern regex =>
    simp only [testCondition, Condition.operand, Json.asString]
    rw [operand_ok, pure_bind, Regex.ofPattern_pattern]
    rfl

/-- What a test reads is a condition of that test, whose operand is well formed if the one given
is. -/
theorem operator_of_testCondition {leaf : Condition} {test : TestKind} {value : Json}
    (h : testCondition test value = .ok leaf) :
    leaf.operator = .test test ∧ (value.WellFormed → leaf.operand.WellFormed) := by
  cases test
  case present =>
    obtain ⟨expected, -, h⟩ := bind_eq_ok_iff.mp h
    cases h
    exact ⟨rfl, fun _ => trivial⟩
  case kind =>
    obtain ⟨name, -, h⟩ := bind_eq_ok_iff.mp h
    split at h
    · cases h
      exact ⟨rfl, fun _ => trivial⟩
    · cases h
  case size =>
    obtain ⟨length, -, h⟩ := bind_eq_ok_iff.mp h
    cases h
    exact ⟨rfl, fun _ => trivial⟩
  case residue =>
    obtain ⟨⟨divisor, remainder⟩, -, h⟩ := bind_eq_ok_iff.mp h
    dsimp only at h
    split at h
    · cases h
    · cases h
      exact ⟨rfl, fun _ => ⟨trivial, trivial, trivial⟩⟩
  case pattern =>
    obtain ⟨pattern, -, h⟩ := bind_eq_ok_iff.mp h
    split at h
    · cases h
      exact ⟨rfl, fun _ => trivial⟩
    · cases h
  all_goals
    obtain ⟨values, hvalues, h⟩ := bind_eq_ok_iff.mp h
    cases h
    obtain rfl := Json.eq_arr_of_asItems (operand_eq_ok_iff.mp hvalues)
    exact ⟨rfl, id⟩

/-! ### Objects of one member -/

/-- A combination is read from its operator and an array of its selectors. -/
theorem ofJson_combine {combinator : Combinator} {items : List Json} {children : List Selector}
    (h : ofItems items = .ok children) :
    ofJson (.single (Operator.combine combinator).name (.arr items)) =
      .ok (.combination combinator children) := by
  simp only [Json.single, ofJson, ofMembers, Operator.ofName?_name, ofCombination, h]
  rfl

/-- A negation is read from its operator and its selector. -/
theorem ofJson_not {value : Json} {child : Selector} (h : ofJson value = .ok child) :
    ofJson (.single Operator.not.name value) = .ok (.not child) := by
  simp only [Json.single, ofJson, ofMembers, Operator.ofName?_name, h]
  rfl

/-- A comparison is read from its operator and its operand. -/
theorem ofJson_compare (comparison : Comparison) (value : Json) :
    ofJson (.single (Operator.compare comparison).name value) =
      .ok (.condition (.compare comparison value)) := by
  simp only [Json.single, ofJson, ofMembers, Operator.ofName?_name]
  rfl

/-- A field is read from its name and its condition. -/
theorem ofJson_field {name : String} {value : Json} {inner : Selector}
    (hname : isReserved name = false) (h : ofFieldValue value = .ok inner) :
    ofJson (.single name value) = .ok (.field (.ofName name) inner) := by
  simp only [Json.single, ofJson, ofMembers, Operator.ofName?_of_not_isReserved hname, hname, h]
  rfl

/-- In a field, a condition is read from its operator and its operand. -/
theorem ofFieldValue_leaf (leaf : Condition) :
    ofFieldValue (.single leaf.operator.name leaf.operand) = .ok (.condition leaf) := by
  rw [Json.single, ofFieldValue, Operator.ofName?_name]
  cases ho : leaf.operator with
  | compare comparison =>
    cases leaf <;> cases ho
    rfl
  | test test =>
    simp only [testCondition_operand ho]
    rfl
  | _ => cases leaf <;> cases ho

/-- In a field, a test of items or keys is read from its operator and its selector. -/
theorem ofFieldValue_element {quantifier : Quantifier} {value : Json} {inner : Selector}
    (h : ofJson value = .ok inner) :
    ofFieldValue (.single (Operator.element quantifier).name value) =
      .ok (.element quantifier inner) := by
  simp only [Json.single, ofFieldValue, Operator.ofName?_name, h]
  rfl

/-- Items that each stand for a selector stand for the selectors in their order. -/
theorem ofItems_map_toJson {selectors : List Selector}
    (h : ∀ selector ∈ selectors, ofJson selector.toJson = .ok selector) :
    ofItems (selectors.map toJson) = .ok selectors := by
  induction selectors with
  | nil => rfl
  | cons selector rest ih =>
    have hrest := ih fun s hs => h s (List.mem_cons_of_mem selector hs)
    simp only [List.map_cons, ofItems, h selector List.mem_cons_self, hrest]
    rfl

/-! ### From selectors to JSON and back -/

/-- The JSON of a well-formed selector stands for the selector, in either place. -/
theorem ofJson_toJson_both (selector : Selector) :
    (selector.WellFormed → ofJson selector.toJson = .ok selector) ∧
      (selector.WellFormedInField → ofFieldValue selector.toJson = .ok selector) := by
  induction selector using inductionOn with
  | combination combinator children ih =>
    refine ⟨fun h => ?_, fun h => h.elim⟩
    rw [wellFormed_combination] at h
    by_cases hempty : combinator = .and ∧ children = []
    · -- The empty object stands for the conjunction of nothing.
      obtain ⟨rfl, rfl⟩ := hempty
      rfl
    · rw [toJson_combination combinator children hempty]
      exact ofJson_combine (ofItems_map_toJson fun child hc => (ih child hc).1 (h child hc))
  | not child ih => exact ⟨fun h => ofJson_not (ih.1 h), fun h => h.elim⟩
  | field path inner ih =>
    refine ⟨fun h => ?_, fun h => h.elim⟩
    obtain ⟨hname, -, hinner⟩ := h
    have hread := ofJson_field hname (ih.2 hinner)
    rw [← path.eq_ofName] at hread
    exact hread
  | condition leaf =>
    refine ⟨fun h => ?_, fun _ => ofFieldValue_leaf leaf⟩
    obtain ⟨comparison, operand, rfl⟩ := h
    exact ofJson_compare comparison operand
  | element quantifier inner ih =>
    exact ⟨fun h => h.elim, fun h => ofFieldValue_element (ih.1 h)⟩

/-! ### From JSON to selectors and back -/

/-- What holds of all that is read from a value, in the three places where the value may stand: as a
selector or the operand of a combination, outside of fields, and as the condition of a field. -/
structure HoldsOfRead (value : Json) (outside inField : Selector → Prop) : Prop where
  selector : ∀ {s : Selector}, ofJson value = .ok s → outside s
  combination : ∀ {combinator : Combinator} {s : Selector},
    ofCombination combinator value = .ok s → outside s
  field : ∀ {s : Selector}, ofFieldValue value = .ok s → inField s

/-- From a value that is neither an array nor an object, only equality with it is read. -/
theorem HoldsOfRead.of_scalar {value : Json} {outside inField : Selector → Prop}
    (hselector : ∀ s, ofJson value ≠ .ok s)
    (hcombination : ∀ combinator s, ofCombination combinator value ≠ .ok s)
    (hfield : ofFieldValue value = .ok (.condition (.compare .eq value)))
    (h : inField (.condition (.compare .eq value))) : HoldsOfRead value outside inField where
  selector hs := absurd hs (hselector _)
  combination hs := absurd hs (hcombination _ _)
  field hs := by
    cases hfield.symm.trans hs
    exact h

/-- What is read from a value is well formed, and its JSON is well formed if the value is. -/
abbrev Sound (value : Json) : Prop :=
  HoldsOfRead value (fun s => s.WellFormed ∧ (value.WellFormed → s.toJson.WellFormed))
    fun s => s.WellFormedInField ∧ (value.WellFormed → s.toJson.WellFormed)

/-- An object of one member is well formed exactly if its value is. -/
@[simp] theorem wellFormed_single (key : String) (value : Json) :
    (Json.single key value).WellFormed ↔ value.WellFormed := by
  simp [Json.single, Entries.Sorted]

/-- The JSON of a combination is well formed if that of its selectors is. -/
theorem wellFormed_toJson_combination {combinator : Combinator} {children : List Selector}
    (h : ∀ child ∈ children, child.toJson.WellFormed) :
    (Selector.combination combinator children).toJson.WellFormed := by
  by_cases hempty : combinator = .and ∧ children = []
  · obtain ⟨rfl, rfl⟩ := hempty
    simp [toJson, Entries.Sorted]
  · rw [toJson_combination combinator children hempty]
    simpa using h

/-- A single selector is its own conjunction. -/
theorem conjunction_cases (selectors : List Selector) :
    (∃ selector, selectors = [selector] ∧ conjunction selectors = selector) ∨
      conjunction selectors = .combination .and selectors := by
  rcases selectors with _ | ⟨selector, _ | ⟨second, rest⟩⟩
  · exact .inr rfl
  · exact .inl ⟨selector, rfl, rfl⟩
  · exact .inr rfl

/-- Selectors read from items are well formed, and so is their JSON if the items are. -/
theorem wellFormed_of_ofItems {items : List Json} {selectors : List Selector}
    (hsound : ∀ item ∈ items, Sound item) (h : ofItems items = .ok selectors) :
    (∀ s ∈ selectors, s.WellFormed) ∧
      ((Json.arr items).WellFormed → ∀ s ∈ selectors, s.toJson.WellFormed) := by
  induction items generalizing selectors with
  | nil =>
    cases h
    simp
  | cons item rest ih =>
    rw [ofItems] at h
    obtain ⟨first, hfirst, h⟩ := bind_eq_ok_iff.mp h
    obtain ⟨others, hothers, h⟩ := bind_eq_ok_iff.mp h
    cases h
    obtain ⟨hwf, hjson⟩ := (hsound item List.mem_cons_self).selector hfirst
    obtain ⟨hwfs, hjsons⟩ := ih (fun i hi => hsound i (List.mem_cons_of_mem item hi)) hothers
    simp only [List.forall_mem_cons, Json.wellFormed_arr] at hjsons ⊢
    exact ⟨⟨hwf, hwfs⟩, fun hitems => ⟨hjson hitems.1, hjsons hitems.2⟩⟩

/-- The selector that a member of an object stands for. -/
def ofMember (key : String) (value : Json) : Except ParseError Selector :=
  match Operator.ofName? key with
  | some (.combine combinator) => ofCombination combinator value
  | some .not => .not <$> withinOperator .not (ofJson value)
  | some (.compare comparison) => .ok (.condition (.compare comparison value))
  | _ =>
    if isReserved key then .error (.unknownOperator key)
    else .field (.ofName key) <$> ofFieldValue value

/-- Members are read one after the other. -/
theorem ofMembers_cons (key : String) (value : Json) (rest : List (String × Json)) :
    ofMembers ((key, value) :: rest) =
      ofMember key value >>= fun first =>
        ofMembers rest >>= fun others => pure (first :: others) := by
  rw [ofMembers, ofMember]
  cases Operator.ofName? key with
  | none => cases isReserved key <;> rfl
  | some op =>
    cases op with
    | test | element => cases isReserved key <;> rfl
    | _ => rfl

/-- A selector read from a member is well formed, and so is its JSON if the value is. -/
theorem wellFormed_of_ofMember {key : String} {value : Json} {s : Selector}
    (hsound : Sound value) (h : ofMember key value = .ok s) :
    s.WellFormed ∧ (value.WellFormed → s.toJson.WellFormed) := by
  rw [ofMember] at h
  split at h
  · exact hsound.combination h
  · obtain ⟨child, hchild, rfl⟩ := map_eq_ok_iff.mp h
    obtain ⟨hwf, hjson⟩ := hsound.selector (mapError_eq_ok_iff.mp hchild)
    exact ⟨hwf, fun hv => (wellFormed_single _ _).mpr (hjson hv)⟩
  · cases h
    exact ⟨⟨_, value, rfl⟩, (wellFormed_single _ _).mpr⟩
  · split at h
    · cases h
    · rename_i hname
      obtain ⟨inner, hinner, rfl⟩ := map_eq_ok_iff.mp h
      obtain ⟨hwf, hjson⟩ := hsound.field hinner
      exact ⟨⟨eq_false_of_ne_true hname, rfl, hwf⟩,
        fun hv => (wellFormed_single _ _).mpr (hjson hv)⟩

/-- Selectors read from members are well formed, and so is their JSON if the values are. -/
theorem wellFormed_of_ofMembers {members : List (String × Json)} {selectors : List Selector}
    (hsound : ∀ entry ∈ members, Sound entry.2) (h : ofMembers members = .ok selectors) :
    (∀ s ∈ selectors, s.WellFormed) ∧
      ((∀ entry ∈ members, entry.2.WellFormed) → ∀ s ∈ selectors, s.toJson.WellFormed) := by
  induction members generalizing selectors with
  | nil =>
    cases h
    simp
  | cons entry rest ih =>
    obtain ⟨key, value⟩ := entry
    rw [ofMembers_cons] at h
    obtain ⟨first, hfirst, h⟩ := bind_eq_ok_iff.mp h
    obtain ⟨others, hothers, h⟩ := bind_eq_ok_iff.mp h
    cases h
    obtain ⟨hwf, hjson⟩ := wellFormed_of_ofMember (hsound (key, value) List.mem_cons_self) hfirst
    obtain ⟨hwfs, hjsons⟩ := ih (fun e he => hsound e (List.mem_cons_of_mem _ he)) hothers
    simp only [List.forall_mem_cons]
    exact ⟨⟨hwf, hwfs⟩, fun hmembers => ⟨hjson hmembers.1, hjsons hmembers.2⟩⟩

/-- What an object of one member is as the condition of a field is well formed. -/
theorem wellFormed_of_ofFieldValue_single {key : String} {value : Json} {s : Selector}
    (hsound : Sound value) (h : ofFieldValue (.single key value) = .ok s) :
    s.WellFormedInField ∧ (value.WellFormed → s.toJson.WellFormed) := by
  rw [Json.single, ofFieldValue] at h
  split at h
  · cases h
    exact ⟨trivial, (wellFormed_single _ _).mpr⟩
  · obtain ⟨leaf, hleaf, rfl⟩ := map_eq_ok_iff.mp h
    obtain ⟨-, hjson⟩ := operator_of_testCondition hleaf
    exact ⟨leaf.wellFormed, fun hv => (wellFormed_single _ _).mpr (hjson hv)⟩
  · obtain ⟨inner, hinner, rfl⟩ := map_eq_ok_iff.mp h
    obtain ⟨hwf, hjson⟩ := hsound.selector (mapError_eq_ok_iff.mp hinner)
    exact ⟨hwf, fun hv => (wellFormed_single _ _).mpr (hjson hv)⟩
  · cases h

/-- Reading is sound at every value. -/
theorem sound (value : Json) : Sound value := by
  induction value using Json.inductionOn with
  | arr items ih =>
    refine ⟨nofun, fun {combinator s} h => ?_, fun {s} h => ?_⟩
    · obtain ⟨children, hchildren, rfl⟩ := map_eq_ok_iff.mp h
      obtain ⟨hwf, hjson⟩ := wellFormed_of_ofItems ih (mapError_eq_ok_iff.mp hchildren)
      exact ⟨(wellFormed_combination combinator children).mpr hwf,
        fun hv => wellFormed_toJson_combination (hjson hv)⟩
    · cases h
      exact ⟨trivial, (wellFormed_single _ _).mpr⟩
  | obj members ih =>
    refine ⟨fun {s} h => ?_, nofun, fun {s} h => ?_⟩
    · obtain ⟨selectors, hselectors, rfl⟩ := map_eq_ok_iff.mp h
      obtain ⟨hwf, hjson⟩ := wellFormed_of_ofMembers ih hselectors
      rw [Json.wellFormed_obj]
      rcases conjunction_cases selectors with ⟨selector, rfl, hc⟩ | hc <;> rw [hc]
      · exact ⟨hwf selector List.mem_cons_self, fun hv => hjson hv.2 selector List.mem_cons_self⟩
      · exact ⟨(wellFormed_combination .and selectors).mpr hwf,
          fun hv => wellFormed_toJson_combination (hjson hv.2)⟩
    · -- Only objects of at most one member are conditions of fields.
      match members, ih, h with
      | [], _, h =>
        cases h
        exact ⟨trivial, (wellFormed_single _ _).mpr⟩
      | [(key, value)], ih, h =>
        have hvalue := wellFormed_of_ofFieldValue_single (ih (key, value) List.mem_cons_self) h
        exact ⟨hvalue.1, fun hv => hvalue.2 ((wellFormed_single key value).mp hv)⟩
      | _ :: _ :: _, _, h => cases h
  | _ => exact .of_scalar nofun nofun rfl ⟨trivial, (wellFormed_single _ _).mpr⟩

/-- Reading and writing selectors are inverse. The selectors that values stand for are the
well-formed ones, and those of well-formed values have well-formed JSON; each of them is what its
own JSON stands for. -/
theorem reading_inverse_to_writing :
    (∀ (v : Json) (n : Selector), ofJson v = .ok n → ofJson n.toJson = .ok n) ∧
    (∀ n : Selector, n.WellFormed → ofJson n.toJson = .ok n) ∧
    (∀ n : Selector, (∃ v, ofJson v = .ok n) ↔ n.WellFormed) ∧
    (∀ n : Selector, (∃ v : Json, v.WellFormed ∧ ofJson v = .ok n) ↔
      n.WellFormed ∧ n.toJson.WellFormed) := by
  have hread : ∀ n : Selector, n.WellFormed → ofJson n.toJson = .ok n :=
    fun n => (ofJson_toJson_both n).1
  refine ⟨fun v n h => hread n ((sound v).selector h).1, hread, fun n => ⟨?_, ?_⟩,
    fun n => ⟨?_, ?_⟩⟩
  · rintro ⟨v, h⟩
    exact ((sound v).selector h).1
  · intro h
    exact ⟨n.toJson, hread n h⟩
  · rintro ⟨v, hv, h⟩
    obtain ⟨hwf, hjson⟩ := (sound v).selector h
    exact ⟨hwf, hjson hv⟩
  · rintro ⟨h, hjson⟩
    exact ⟨n.toJson, hjson, hread n h⟩

/-- An implicit conjunction of an implicit equality and a test of items is written out in full, and
reads as the same selector. -/
theorem reading_inverse_to_writing_implicit :
    let selector : Selector := .combination .and [
      .field (.ofName "a.b") (.condition (.compare .eq (.obj []))),
      .field (.ofName "c") (.element .someItem (.condition (.compare .gt (.bool true))))]
    ofJson (.obj [("a.b", .obj []),
        ("c", .single "$elemMatch" (.single "$gt" (.bool true)))]) = .ok selector ∧
      ofJson selector.toJson = .ok selector ∧
      selector.toJson = .single "$and" (.arr [.single "a.b" (.single "$eq" (.obj [])),
        .single "c" (.single "$elemMatch" (.single "$gt" (.bool true)))]) := by
  have hread : ofJson (.obj [("a.b", .obj []),
      ("c", .single "$elemMatch" (.single "$gt" (.bool true)))]) = .ok (.combination .and [
        .field (.ofName "a.b") (.condition (.compare .eq (.obj []))),
        .field (.ofName "c") (.element .someItem (.condition (.compare .gt (.bool true))))]) := rfl
  exact ⟨hread, reading_inverse_to_writing.1 _ _ hread, rfl⟩

end Selector

end DocQuery
