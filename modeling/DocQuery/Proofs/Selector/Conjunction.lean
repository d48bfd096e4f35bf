import DocQuery.Proofs.Selector.Sameness

/-!
# Conjunctions that are not written out

An object of several members is the conjunction of the objects of one member each. Both are read in
the same order up to the first error, and only the one written out puts the operator around it. A
single member is left as it is, which no value distinguishes from its conjunction.
-/

namespace DocQuery

/-- The members of an object, each as an object of its own. -/
def Json.singles (members : List (String × Json)) : List Json :=
  members.map fun entry => .single entry.1 entry.2

/-- The conjunction of several values, written out. -/
def Json.conjunctionOf (items : List Json) : Json := .single "$and" (.arr items)

namespace Selector

/-- An object of one member is read as this member. -/
theorem ofJson_single (key : String) (value : Json) :
    ofJson (.single key value) = ofMember key value := by
  rw [Json.single, ofJson, ofMembers_cons]
  cases ofMember key value <;> rfl

/-- Members are read as the objects of one member each. -/
theorem ofItems_singles (members : List (String × Json)) :
    ofItems (Json.singles members) = ofMembers members := by
  induction members with
  | nil => rfl
  | cons entry rest ih =>
    have hrest : ofItems (rest.map fun e => Json.single e.1 e.2) = ofMembers rest := ih
    rw [Json.singles, List.map_cons, ofItems, ofJson_single, ofMembers_cons, hrest]

/-- A conjunction that is written out is read item by item, and errors name its operator. -/
theorem ofJson_conjunctionOf (items : List Json) :
    ofJson (Json.conjunctionOf items) =
      .combination .and <$> withinOperator (.combine .and) (ofItems items) := by
  have hname : Operator.ofName? "$and" = some (.combine .and) := by decide
  rw [Json.conjunctionOf, ofJson_single]
  simp only [ofMember, hname, ofCombination]

/-- Items are read one by one. -/
theorem ofItems_eq_ok_iff {items : List Json} {selectors : List Selector} :
    ofItems items = .ok selectors ↔
      List.Forall₂ (fun item selector => ofJson item = .ok selector) items selectors := by
  induction items generalizing selectors with
  | nil => simp [ofItems, eq_comm]
  | cons item rest ih =>
    rw [ofItems, bind_eq_ok_iff, List.forall₂_cons_left_iff]
    constructor
    · rintro ⟨first, hfirst, h⟩
      obtain ⟨others, hothers, h⟩ := bind_eq_ok_iff.mp h
      cases h
      exact ⟨first, others, hfirst, ih.mp hothers, rfl⟩
    · rintro ⟨first, others, hfirst, hothers, rfl⟩
      exact ⟨first, hfirst, bind_eq_ok_iff.mpr ⟨others, ih.mpr hothers, rfl⟩⟩

/-- Items in another order are read as the same selectors in another order. -/
theorem exists_perm_of_ofItems {items order : List Json} {selectors : List Selector}
    (hperm : order.Perm items) (h : ofItems items = .ok selectors) :
    ∃ reordered, ofItems order = .ok reordered ∧ reordered.Perm selectors := by
  obtain ⟨reordered, hread, hsame⟩ := List.perm_comp_forall₂ hperm (ofItems_eq_ok_iff.mp h)
  exact ⟨reordered, ofItems_eq_ok_iff.mpr hread, hsame⟩

/-- A value satisfies a single selector if it satisfies its conjunction. -/
theorem isSatisfiedBy_conjunction (selectors : List Selector) (value : Json) :
    (conjunction selectors).isSatisfiedBy value =
      (combination .and selectors).isSatisfiedBy value := by
  rcases conjunction_cases selectors with ⟨selector, rfl, hsingle⟩ | hseveral
  · rw [hsingle, isSatisfiedBy, allSatisfiedBy, allSatisfiedBy, Bool.and_true]
  · rw [hseveral]

/-- The order of the selectors of a conjunction does not matter. -/
theorem isSatisfiedBy_and_of_perm {as bs : List Selector} (h : as.Perm bs) (value : Json) :
    (combination .and as).isSatisfiedBy value = (combination .and bs).isSatisfiedBy value := by
  rw [isSatisfiedBy, isSatisfiedBy, allSatisfiedBy_eq_all, allSatisfiedBy_eq_all, h.all_eq]

/-- Two or more members are read as the conjunction written out. -/
theorem conjunction_of_two_le {selectors : List Selector} (h : 2 ≤ selectors.length) :
    conjunction selectors = .combination .and selectors := by
  rcases conjunction_cases selectors with ⟨selector, rfl, -⟩ | hseveral
  · simp at h
  · exact hseveral

/-- The members of an object and the conjunction of them written out are accepted alike. If they
are, both are satisfied by the same values, in whichever order the conjunction lists them, and two
or more members are read as the selector that is written out. If they are not, the message names the
conjunction and goes on as that of the members. -/
theorem implicit_conjunction_reads_as_explicit (members : List (String × Json)) :
    ((∃ s, ofJson (.obj members) = .ok s) ↔
      ∃ s, ofJson (Json.conjunctionOf (Json.singles members)) = .ok s) ∧
    (∀ s, ofJson (.obj members) = .ok s → ∀ order : List Json, order.Perm (Json.singles members) →
      ∃ t, ofJson (Json.conjunctionOf order) = .ok t ∧
        ∀ d, t.isSatisfiedBy d = s.isSatisfiedBy d) ∧
    (∀ s, 2 ≤ members.length → ofJson (.obj members) = .ok s →
      ofJson (Json.conjunctionOf (Json.singles members)) = .ok s) ∧
    (∀ e, ofJson (.obj members) = .error e →
      ∃ f, ofJson (Json.conjunctionOf (Json.singles members)) = .error f ∧
        f.message = "$and: " ++ e.message) := by
  have himplicit : ofJson (.obj members) = conjunction <$> ofMembers members := by rw [ofJson]
  have hexplicit : ofJson (Json.conjunctionOf (Json.singles members)) =
      .combination .and <$> withinOperator (.combine .and) (ofMembers members) := by
    rw [ofJson_conjunctionOf, ofItems_singles]
  cases hread : ofMembers members with
  | error e =>
    rw [hread] at himplicit hexplicit
    have hrefused : ofJson (.obj members) = .error e := himplicit
    have hwithin : ofJson (Json.conjunctionOf (Json.singles members)) =
        .error (.within (.combine .and) e) := hexplicit
    simp only [hrefused, hwithin]
    refine ⟨by simp, fun s hs => ?_, fun s _ hs => ?_, fun e' he => ⟨_, rfl, ?_⟩⟩
    · cases hs
    · cases hs
    · cases he
      rfl
  | ok selectors =>
    rw [hread] at himplicit hexplicit
    have haccepted : ofJson (.obj members) = .ok (conjunction selectors) := himplicit
    have hwritten : ofJson (Json.conjunctionOf (Json.singles members)) =
        .ok (.combination .and selectors) := hexplicit
    have hitems : ofItems (Json.singles members) = .ok selectors := by rw [ofItems_singles, hread]
    simp only [haccepted, hwritten]
    refine ⟨by simp, fun s hs order hperm => ?_, fun s hlength hs => ?_, fun e he => ?_⟩
    · cases hs
      obtain ⟨reordered, hreordered, hsame⟩ := exists_perm_of_ofItems hperm hitems
      refine ⟨.combination .and reordered, ?_, fun d => ?_⟩
      · rw [ofJson_conjunctionOf, hreordered]
        rfl
      · rw [isSatisfiedBy_conjunction, isSatisfiedBy_and_of_perm hsame]
    · cases hs
      have hcount : 2 ≤ selectors.length := by
        have hpairs := (ofItems_eq_ok_iff.mp hitems).length_eq
        rw [Json.singles, List.length_map] at hpairs
        omega
      rw [conjunction_of_two_le hcount]
    · cases he

/-- A negation, a comparison and an equality, written out from the last to the first, are satisfied
by the same values; of two members that are refused, the first is reported below the conjunction. -/
theorem implicit_conjunction_reads_as_explicit_reversed :
    let members : List (String × Json) :=
      [("$not", .single "a" .null), ("b", .single "$gt" (.bool true)), ("c", .arr [])]
    let refused : List (String × Json) :=
      [("a", .single "$below" .null), ("b", .obj [("$eq", .null), ("$ne", .null)])]
    (∃ s t, ofJson (.obj members) = .ok s ∧
      ofJson (Json.conjunctionOf (Json.singles members).reverse) = .ok t ∧
      ∀ d, t.isSatisfiedBy d = s.isSatisfiedBy d) ∧
    ∃ e, ofJson (Json.conjunctionOf (Json.singles refused)) = .error e ∧
      e.message = "$and: invalid operator $below" := by
  intro members refused
  obtain ⟨-, hmatch, -, -⟩ := implicit_conjunction_reads_as_explicit members
  obtain ⟨-, -, -, herror⟩ := implicit_conjunction_reads_as_explicit refused
  obtain ⟨t, hreversed, hsame⟩ := hmatch _ rfl _ (List.reverse_perm _)
  obtain ⟨e, he, hmessage⟩ := herror (.invalidOperator "$below") rfl
  exact ⟨⟨_, t, rfl, hreversed, hsame⟩, e, he, hmessage⟩

end Selector

end DocQuery
