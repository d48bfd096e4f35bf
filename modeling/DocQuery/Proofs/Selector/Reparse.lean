import DocQuery.Proofs.Json.Decoded
import DocQuery.Proofs.Json.ReadBack
import DocQuery.Proofs.Selector.Acceptance
import DocQuery.Proofs.Selector.Operands
import DocQuery.Proofs.Selector.Sameness

/-!
# Parsing the texts of selectors

The text of a selector is parsed as the selector, unless the selector mentions binary64 numbers or
is written deeper than the decoder allows. Operators that a value leaves out are written out, so a
selector may be written up to three times as deep as the value it was read from, and a selector of
an accepted text may have a text that is not accepted.
-/

namespace DocQuery.Selector

/-- An object of one member is one level deeper than its value. -/
@[simp] theorem depth_single (key : String) (value : Json) :
    (Json.single key value).depth = value.depth + 1 := by
  simp [Json.single, Json.depth, Json.depthOfMembers]

/-- A combination is written at most two levels deeper than its selectors. -/
theorem depth_toJson_combination_le (combinator : Combinator) {children : List Selector}
    {bound : Nat} (h : ∀ child ∈ children, child.toJson.depth ≤ bound) :
    (combination combinator children).toJson.depth ≤ bound + 2 := by
  by_cases hempty : combinator = .and ∧ children = []
  · obtain ⟨rfl, rfl⟩ := hempty
    simp [toJson, Json.depth, Json.depthOfMembers]
  · have hitems : (Json.arr (children.map toJson)).depth ≤ bound + 1 := by
      rw [Json.depth_arr_le_iff]
      simpa using h
    rw [toJson_combination combinator children hempty, depth_single]
    omega

/-- The operand of a test is written as it is read. -/
theorem operand_of_testCondition {test : TestKind} {value : Json} {leaf : Condition}
    (h : testCondition test value = .ok leaf) : leaf.operand = value := by
  obtain ⟨other, test', hop, hname, rfl⟩ := (isTestOperand_of_testCondition h).exists_condition
  have htest : some (Operator.test test) = some (Operator.test test') := by
    rw [← Operator.ofName?_name, hname, Operator.ofName?_name]
  cases htest
  cases (testCondition_operand hop).symm.trans h
  rfl

/-- What is read from a value is written at most three times as deep and one level. -/
abbrev WrittenShallow (value : Json) : Prop :=
  HoldsOfRead value (fun s => s.toJson.depth ≤ 3 * value.depth + 1)
    fun s => s.toJson.depth ≤ 3 * value.depth + 1

/-- Selectors read from items are written at most three times as deep as the items and one level. -/
theorem depth_of_ofItems {items : List Json} {selectors : List Selector} {bound : Nat}
    (hshallow : ∀ item ∈ items, WrittenShallow item) (hbound : ∀ item ∈ items, item.depth ≤ bound)
    (h : ofItems items = .ok selectors) : ∀ s ∈ selectors, s.toJson.depth ≤ 3 * bound + 1 := by
  induction items generalizing selectors with
  | nil =>
    cases h
    exact fun _ hmem => absurd hmem List.not_mem_nil
  | cons item rest ih =>
    rw [ofItems] at h
    obtain ⟨first, hfirst, h⟩ := bind_eq_ok_iff.mp h
    obtain ⟨others, hothers, h⟩ := bind_eq_ok_iff.mp h
    cases h
    rw [List.forall_mem_cons] at hshallow hbound ⊢
    have hdepth := hshallow.1.selector hfirst
    exact ⟨by omega, ih hshallow.2 hbound.2 hothers⟩

/-- A selector read from a member is written at most three times as deep as the value and two
levels. -/
theorem depth_of_ofMember {key : String} {value : Json} {s : Selector}
    (hshallow : WrittenShallow value) (h : ofMember key value = .ok s) :
    s.toJson.depth ≤ 3 * value.depth + 2 := by
  rw [ofMember] at h
  split at h
  · exact Nat.le_succ_of_le (hshallow.combination h)
  · obtain ⟨child, hchild, rfl⟩ := map_eq_ok_iff.mp h
    have hdepth := hshallow.selector (mapError_eq_ok_iff.mp hchild)
    rw [toJson, depth_single]
    omega
  · cases h
    rw [toJson, depth_single, Condition.operand]
    omega
  · split at h
    · cases h
    · obtain ⟨inner, hinner, rfl⟩ := map_eq_ok_iff.mp h
      have hdepth := hshallow.field hinner
      rw [toJson, depth_single]
      omega

/-- Selectors read from members are written at most three times as deep as the values and two
levels. -/
theorem depth_of_ofMembers {members : List (String × Json)} {selectors : List Selector}
    {bound : Nat} (hshallow : ∀ entry ∈ members, WrittenShallow entry.2)
    (hbound : ∀ entry ∈ members, entry.2.depth ≤ bound) (h : ofMembers members = .ok selectors) :
    ∀ s ∈ selectors, s.toJson.depth ≤ 3 * bound + 2 := by
  induction members generalizing selectors with
  | nil =>
    cases h
    exact fun _ hmem => absurd hmem List.not_mem_nil
  | cons entry rest ih =>
    obtain ⟨key, value⟩ := entry
    rw [ofMembers_cons] at h
    obtain ⟨first, hfirst, h⟩ := bind_eq_ok_iff.mp h
    obtain ⟨others, hothers, h⟩ := bind_eq_ok_iff.mp h
    cases h
    rw [List.forall_mem_cons] at hshallow hbound ⊢
    have hdepth := depth_of_ofMember hshallow.1 hfirst
    exact ⟨by omega, ih hshallow.2 hbound.2 hothers⟩

/-- A condition read from an object of one member is written at most three times as deep as the
object and one level. -/
theorem depth_of_ofFieldValue_single {key : String} {value : Json} {s : Selector}
    (hshallow : WrittenShallow value) (h : ofFieldValue (.single key value) = .ok s) :
    s.toJson.depth ≤ 3 * (Json.single key value).depth + 1 := by
  rw [Json.single, ofFieldValue] at h
  split at h
  · cases h
    rw [toJson, depth_single, depth_single, Condition.operand]
    omega
  · obtain ⟨leaf, hleaf, rfl⟩ := map_eq_ok_iff.mp h
    rw [toJson, depth_single, depth_single, operand_of_testCondition hleaf]
    omega
  · obtain ⟨inner, hinner, rfl⟩ := map_eq_ok_iff.mp h
    have hdepth := hshallow.selector (mapError_eq_ok_iff.mp hinner)
    rw [toJson, depth_single, depth_single]
    omega
  · cases h

/-- The equality that a value stands for is written one level deeper than the value. -/
theorem depth_toJson_eq (value : Json) :
    (Selector.condition (.compare .eq value)).toJson.depth = value.depth + 1 := depth_single _ _

/-- Every value is written at most three times as deep and one level. -/
theorem writtenShallow (value : Json) : WrittenShallow value := by
  induction value using Json.inductionOn with
  | arr items ih =>
    refine ⟨fun {s} h => (by cases h), fun {combinator s} h => ?_, fun {s} h => ?_⟩
    · obtain ⟨children, hchildren, rfl⟩ := map_eq_ok_iff.mp h
      have hitems : ∀ item ∈ items, item.depth ≤ Json.depthOfItems items :=
        Json.depthOfItems_le_iff.mp (Nat.le_refl _)
      have hdepth := depth_toJson_combination_le combinator
        (depth_of_ofItems ih hitems (mapError_eq_ok_iff.mp hchildren))
      rw [Json.depth]
      omega
    · cases h
      rw [depth_toJson_eq]
      omega
  | obj members ih =>
    have hmembers : ∀ entry ∈ members, entry.2.depth ≤ Json.depthOfMembers members :=
      Json.depthOfMembers_le_iff.mp (Nat.le_refl _)
    refine ⟨fun {s} h => ?_, fun {combinator s} h => (by cases h), fun {s} h => ?_⟩
    · obtain ⟨selectors, hselectors, rfl⟩ := map_eq_ok_iff.mp h
      have hdepths := depth_of_ofMembers ih hmembers hselectors
      rw [Json.depth]
      rcases conjunction_cases selectors with ⟨selector, rfl, hc⟩ | hc
      · -- A single member is written without a combination around it.
        have hdepth := hdepths selector List.mem_cons_self
        rw [hc]
        omega
      · have hdepth := depth_toJson_combination_le .and hdepths
        rw [hc]
        omega
    · rcases members with _ | ⟨⟨key, value⟩, _ | ⟨second, rest⟩⟩
      · cases h
        rw [depth_toJson_eq]
        omega
      · exact depth_of_ofFieldValue_single (ih (key, value) List.mem_cons_self) h
      · cases h
  | _ =>
    refine .of_scalar (by rintro s ⟨⟩) (by rintro combinator s ⟨⟩) rfl ?_
    rw [depth_toJson_eq]
    omega

/-- A text is parsed as a selector exactly if it decodes to a value that is read as one. -/
theorem parse_eq_ok_iff {bytes : List UInt8} {s : Selector} :
    parse bytes = .ok s ↔ ∃ value, Json.decode bytes = .ok value ∧ ofJson value = .ok s := by
  rw [parse, bind_eq_ok_iff]
  simp only [mapError_eq_ok_iff]

section Integers

variable {s : Selector} (hjson : s.toJson.WellFormed) (hint : ∀ x, ¬s.Mentions (.float x))

include hjson hint

/-- The text of a selector that is written at an allowed depth is parsed as the selector. -/
theorem parse_text (hwf : s.WellFormed) (h : s.toJson.depth ≤ Json.maxDepth) :
    parse s.text.toUTF8.toList = .ok s := by
  rw [parse_eq_ok_iff]
  refine ⟨s.toJson, ?_, (ofJson_toJson_both s).1 hwf⟩
  exact Json.decode_text hjson (fun x hx => hint x (mentions_of_contains_toJson hx)) h

/-- The text of a selector that is written deeper is refused for its depth. -/
theorem parse_text_of_deep (h : Json.maxDepth < s.toJson.depth) :
    ∃ p, parse s.text.toUTF8.toList = .error (.undecodable ⟨.malformed .tooDeep, p⟩) := by
  obtain ⟨p, hdecode⟩ := Json.decode_text_of_deep hjson
    (fun x hx => hint x (mentions_of_contains_toJson hx)) h
  refine ⟨p, ?_⟩
  rw [parse, text, hdecode]
  rfl

end Integers

/-- The text of a parsed selector without binary64 numbers is parsed as the same selector exactly if
its JSON is nested no deeper than the decoder allows, and is refused for its depth otherwise. It is
parsed whenever the value that the selector was read from is at most 42 deep, a third of that. -/
theorem texts_parsed_within_depth {bytes : List UInt8} {s : Selector} (h : parse bytes = .ok s)
    (hint : ∀ x, ¬s.Mentions (.float x)) :
    ((∃ t, parse s.text.toUTF8.toList = .ok t ∧ (t == s) = true) ↔
      s.toJson.depth ≤ Json.maxDepth) ∧
    (s.toJson.depth ≤ Json.maxDepth → parse s.text.toUTF8.toList = .ok s) ∧
    (Json.maxDepth < s.toJson.depth →
      ∃ p, parse s.text.toUTF8.toList = .error (.undecodable ⟨.malformed .tooDeep, p⟩)) ∧
    (∀ value, Json.decode bytes = .ok value → value.depth ≤ 42 →
      parse s.text.toUTF8.toList = .ok s) := by
  obtain ⟨value, hvalue, hread⟩ := parse_eq_ok_iff.mp h
  obtain ⟨hwf, hsound⟩ := (sound value).selector hread
  have hjson : s.toJson.WellFormed := hsound (Json.wellFormed_of_decode hvalue)
  have hfits := parse_text hjson hint hwf
  have hdeep := parse_text_of_deep hjson hint
  refine ⟨⟨?_, ?_⟩, hfits, hdeep, ?_⟩
  · rintro ⟨t, ht, -⟩
    by_contra hnot
    obtain ⟨p, herror⟩ := hdeep (Nat.lt_of_not_le hnot)
    cases ht.symm.trans herror
  · intro hdepth
    exact ⟨s, hfits hdepth, same_self s⟩
  · intro other hother hdepth
    cases hvalue.symm.trans hother
    have hwritten : s.toJson.depth ≤ 3 * value.depth + 1 := (writtenShallow value).selector hread
    exact hfits (hwritten.trans (show 3 * value.depth + 1 ≤ 127 by omega))

/-- The value one. -/
def one : Json := .num (.ofUInt64 1)

/-- The value one holds no binary64 number. -/
theorem not_contains_one (x : Binary64) : ¬one.Contains (.float x) := by rintro ⟨⟩

/-- The comparison of a field with a value. -/
def equals (name : String) (value : Json) : Selector :=
  .field (.ofName name) (.condition (.compare .eq value))

/-- A number in a combination is in one of its selectors. -/
theorem exists_of_mentions_combination {n : Number} {combinator : Combinator}
    {children : List Selector} (h : (combination combinator children).Mentions n) :
    ∃ child ∈ children, child.Mentions n := by
  cases h with
  | child mem h => exact ⟨_, mem, h⟩

/-- A comparison has no other numbers than its value. -/
theorem not_mentions_equals {n : Number} (name : String) {value : Json} (h : ¬value.Contains n) :
    ¬(equals name value).Mentions n := by
  intro hmention
  cases hmention with
  | field hmention => cases hmention with
    | operand hcontains => exact h hcontains

/-- A negation and a field that is implicitly compared with an array. -/
theorem texts_parsed_within_depth_implicit :
    let selector : Selector := .combination .and [.not (equals "a" one),
      equals "b" (.arr [.str "x", .null])]
    parse "\x7b\"$not\":\x7b\"a\":1\x7d,\"b\":[\"x\",null]\x7d".toUTF8.toList = .ok selector ∧
      (∀ x, ¬selector.Mentions (.float x)) ∧ parse selector.text.toUTF8.toList = .ok selector := by
  intro selector
  have hparse :
      parse "\x7b\"$not\":\x7b\"a\":1\x7d,\"b\":[\"x\",null]\x7d".toUTF8.toList = .ok selector :=
    parse_eq_ok_iff.mpr ⟨.obj [("$not", .obj [("a", one)]), ("b", .arr [.str "x", .null])],
      Json.decodeText_eq_ok_of_text (by decide +kernel), rfl⟩
  have harray : ∀ x, ¬(Json.arr [.str "x", .null]).Contains (.float x) := by
    intro x h
    cases h with
    | item mem h =>
      simp only [List.mem_cons, List.not_mem_nil, or_false] at mem
      rcases mem with rfl | rfl <;> cases h
  have hint : ∀ x, ¬selector.Mentions (.float x) := by
    intro x h
    obtain ⟨child, mem, h⟩ := exists_of_mentions_combination h
    simp only [List.mem_cons, List.not_mem_nil, or_false] at mem
    rcases mem with rfl | rfl
    · cases h with
      | not h => exact not_mentions_equals "a" (not_contains_one x) h
    · exact not_mentions_equals "b" (harray x) h
  exact ⟨hparse, hint, (texts_parsed_within_depth hparse hint).2.1 (by decide)⟩

/-- Two comparisons below the given number of negations, each of them beside a comparison. -/
def negations : Nat → Json
  | 0 => .obj [("a", one), ("b", one)]
  | n + 1 => .obj [("$not", negations n), ("a", one)]

/-- The selector that nested negations stand for. -/
def ofNegations : Nat → Selector
  | 0 => .combination .and [equals "a" one, equals "b" one]
  | n + 1 => .combination .and [.not (ofNegations n), equals "a" one]

/-- Nested negations are read as selectors. -/
theorem ofJson_negations (n : Nat) : ofJson (negations n) = .ok (ofNegations n) := by
  induction n with
  | zero => rfl
  | succ n ih =>
    have hnot : Operator.ofName? "$not" = some .not := Operator.ofName?_name .not
    have hfield : ofMembers [("a", one)] = .ok [equals "a" one] := rfl
    rw [negations, ofJson, ofMembers_cons, ofMember]
    simp only [hnot, ih, hfield]
    rfl

/-- Each negation adds one level. -/
theorem depth_negations (n : Nat) : (negations n).depth = n + 1 := by
  induction n with
  | zero => rfl
  | succ n ih => simp [negations, one, Json.depth, Json.depthOfMembers, ih]

/-- Nested negations are well formed: a dollar sign comes before letters. -/
theorem wellFormed_negations (n : Nat) : (negations n).WellFormed := by
  have hkeys : "a" < "b" ∧ "$not" < "a" := by decide
  induction n with
  | zero =>
    rw [negations, Json.wellFormed_obj]
    refine ⟨List.pairwise_pair.mpr hkeys.1, fun entry mem => ?_⟩
    simp only [List.mem_cons, List.not_mem_nil, or_false] at mem
    rcases mem with rfl | rfl <;> trivial
  | succ n ih =>
    rw [negations, Json.wellFormed_obj]
    refine ⟨List.pairwise_pair.mpr hkeys.2, fun entry mem => ?_⟩
    simp only [List.mem_cons, List.not_mem_nil, or_false] at mem
    rcases mem with rfl | rfl
    · exact ih
    · trivial

/-- Nested negations hold no binary64 number. -/
theorem not_contains_negations (n : Nat) (x : Binary64) : ¬(negations n).Contains (.float x) := by
  induction n with
  | zero =>
    intro h
    cases h with
    | member mem h =>
      simp only [List.mem_cons, List.not_mem_nil, or_false] at mem
      rcases mem with rfl | rfl
      · exact not_contains_one x h
      · exact not_contains_one x h
  | succ n ih =>
    intro h
    cases h with
    | member mem h =>
      simp only [List.mem_cons, List.not_mem_nil, or_false] at mem
      rcases mem with rfl | rfl
      · exact ih h
      · exact not_contains_one x h

/-- The selectors of nested negations have no binary64 number. -/
theorem not_mentions_ofNegations (n : Nat) (x : Binary64) :
    ¬(ofNegations n).Mentions (.float x) := by
  have hone : ∀ name, ¬(equals name one).Mentions (.float x) := fun name =>
    not_mentions_equals name (not_contains_one x)
  induction n with
  | zero =>
    intro h
    obtain ⟨child, mem, h⟩ := exists_of_mentions_combination h
    simp only [List.mem_cons, List.not_mem_nil, or_false] at mem
    rcases mem with rfl | rfl
    · exact hone "a" h
    · exact hone "b" h
  | succ n ih =>
    intro h
    obtain ⟨child, mem, h⟩ := exists_of_mentions_combination h
    simp only [List.mem_cons, List.not_mem_nil, or_false] at mem
    rcases mem with rfl | rfl
    · cases h with
      | not h => exact ih h
    · exact hone "a" h

/-- The JSON of nested negations is three times as deep as the value they are read from. -/
theorem depth_toJson_ofNegations (n : Nat) : (ofNegations n).toJson.depth = 3 * n + 4 := by
  induction n with
  | zero => rfl
  | succ n ih =>
    have hfield : (equals "a" one).toJson.depth = 2 := rfl
    simp only [ofNegations, toJson, toJsonList, depth_single, Json.depth, Json.depthOfItems, ih,
      hfield]
    omega

/-- Nested negations are parsed as long as their own text is nested as deep as allowed. -/
theorem parse_negations {n : Nat} (h : n < Json.maxDepth) :
    parse (negations n).text.toUTF8.toList = .ok (ofNegations n) := by
  rw [parse_eq_ok_iff]
  refine ⟨negations n, ?_, ofJson_negations n⟩
  refine Json.decode_text (wellFormed_negations n) (not_contains_negations n) ?_
  rw [depth_negations]
  exact h

/-- From 42 nested negations on, the text of the selector that is parsed is refused. -/
theorem parse_text_ofNegations {n : Nat} (h : 42 ≤ n) : ∃ p,
    parse (ofNegations n).text.toUTF8.toList = .error (.undecodable ⟨.malformed .tooDeep, p⟩) := by
  have hjson : (ofNegations n).toJson.WellFormed :=
    ((sound (negations n)).selector (ofJson_negations n)).2 (wellFormed_negations n)
  refine parse_text_of_deep hjson (not_mentions_ofNegations n) ?_
  rw [depth_toJson_ofNegations]
  exact show 127 < 3 * n + 4 by omega

/-- A text nested 43 deep is parsed as a selector whose own text is refused for its depth. -/
theorem parsed_selector_with_refused_text :
    parse (negations 42).text.toUTF8.toList = .ok (ofNegations 42) ∧
      (∀ x, ¬(ofNegations 42).Mentions (.float x)) ∧
      ∃ p, parse (ofNegations 42).text.toUTF8.toList =
        .error (.undecodable ⟨.malformed .tooDeep, p⟩) :=
  ⟨parse_negations (by decide), not_mentions_ofNegations 42,
    parse_text_ofNegations (Nat.le_refl 42)⟩

end DocQuery.Selector
