import DocQuery.Proofs.Selector.Conjunction

/-!
# Refusals inside selectors

A selector is read from its first member to its last. If what comes before a place in it is
accepted, a value that is refused at this place decides about the whole selector: the error is that
of the value, inside the operators around the place, outermost first. Neither what comes after the
place nor the fields and unwritten conjunctions around it leave a trace.
-/

namespace DocQuery

/-- An insertion puts its entry after entries with smaller keys, which it leaves in place. -/
theorem Entries.exists_insert_eq {α : Type} (key : String) (value : α)
    (entries : List (String × α)) :
    ∃ before after, insert key value entries = before ++ (key, value) :: after ∧
      ∀ entry ∈ before, entry ∈ entries ∧ entry.1 < key := by
  induction entries with
  | nil => exact ⟨[], [], rfl, nofun⟩
  | cons entry rest ih =>
    obtain ⟨k, v⟩ := entry
    by_cases hlt : key < k
    · exact ⟨[], (k, v) :: rest, if_pos hlt, nofun⟩
    · by_cases heq : key = k
      · exact ⟨[], rest, by rw [insert, if_neg hlt, if_pos heq, List.nil_append], nofun⟩
      · obtain ⟨before, after, hinsert, hbefore⟩ := ih
        have hlater : k < key := Std.lt_of_le_of_ne (String.not_lt.1 hlt) (Ne.symm heq)
        refine ⟨(k, v) :: before, after, ?_, ?_⟩
        · rw [insert, if_neg hlt, if_neg heq, hinsert, List.cons_append]
        · rw [List.forall_mem_cons]
          exact ⟨⟨List.mem_cons_self, hlater⟩, fun e he =>
            ⟨List.mem_cons_of_mem _ (hbefore e he).1, (hbefore e he).2⟩⟩

namespace Selector

/-- The operand of an operator with a place left open for a selector. -/
inductive Opening where
  /-- Below a negation. -/
  | negated
  /-- Between the selectors of a combination. -/
  | combined (combinator : Combinator) (before after : List Json)
  /-- Below an operator on the items or keys of the value at a field. -/
  | applied (name : String) (isField : isReserved name = false) (quantifier : Quantifier)

namespace Opening

/-- The operator that the open place is below. -/
def operator : Opening → Operator
  | negated => .not
  | combined combinator _ _ => .combine combinator
  | applied _ _ quantifier => .element quantifier

/-- The key of the member with the open place: the operator, or the field that it is applied at. -/
def key : Opening → String
  | applied name _ _ => name
  | opening => opening.operator.name

/-- The value of the member, with a value at the open place. -/
def fill : Opening → Json → Json
  | negated, value => value
  | combined _ before after, value => .arr (before ++ value :: after)
  | applied _ _ quantifier, value => .single (Operator.element quantifier).name value

/-- The values that are read before the open place. -/
def before : Opening → List Json
  | combined _ before _ => before
  | _ => []

end Opening

/-- An object with a place left open for a selector, in one member, and its other members. -/
structure Layer where
  opening : Opening
  others : KeyMap Json

/-- The object, with a value at the open place. -/
def Layer.fill (layer : Layer) (value : Json) : Json :=
  .obj (layer.others.insert layer.opening.key (layer.opening.fill value)).entries

/-- Whether a value is a selector. -/
def Accepted (value : Json) : Prop := ∃ selector, ofJson value = .ok selector

/-- Whether everything that is read before the open place of an object is accepted: the values
before it in its member, and the members with smaller keys, each by itself. -/
structure Layer.Reached (layer : Layer) : Prop where
  values : ∀ value ∈ layer.opening.before, Accepted value
  members : ∀ entry ∈ layer.others.entries, entry.1 < layer.opening.key →
    Accepted (.single entry.1 entry.2)

/-- A selector with a place left open for a selector, as the objects around it, outermost first. -/
abbrev Context := List Layer

namespace Context

/-- The selector, with a value at the open place. -/
def fill (context : Context) (value : Json) : Json := context.foldr Layer.fill value

/-- The operators around the open place, outermost first. -/
def operators (context : Context) : List Operator := context.map fun layer => layer.opening.operator

/-- Whether everything that is read before the open place is accepted. -/
def Reached (context : Context) : Prop := ∀ layer ∈ context, layer.Reached

end Context

variable {value : Json} {e : ParseError}

/-- Of several values, the first that is refused decides. -/
theorem ofItems_eq_error {before : List Json} (hbefore : ∀ item ∈ before, Accepted item)
    (h : ofJson value = .error e) (after : List Json) :
    ofItems (before ++ value :: after) = .error e := by
  induction before with
  | nil =>
    rw [List.nil_append, ofItems, h]
    rfl
  | cons item rest ih =>
    rw [List.forall_mem_cons] at hbefore
    obtain ⟨⟨selector, hitem⟩, hrest⟩ := hbefore
    rw [List.cons_append, ofItems, hitem, ih hrest]
    rfl

/-- Of several members, the first that is refused decides. -/
theorem ofMembers_eq_error {before : List (String × Json)} {key : String}
    (hbefore : ∀ entry ∈ before, Accepted (.single entry.1 entry.2))
    (h : ofMember key value = .error e) (after : List (String × Json)) :
    ofMembers (before ++ (key, value) :: after) = .error e := by
  have hitems : ofItems (Json.singles before ++ .single key value :: Json.singles after) =
      .error e := by
    refine ofItems_eq_error (fun item hitem => ?_) (by rw [ofJson_single, h]) _
    obtain ⟨entry, hentry, rfl⟩ := List.mem_map.mp hitem
    exact hbefore entry hentry
  rw [← ofItems_singles, Json.singles, List.map_append, List.map_cons]
  exact hitems

/-- A value that is refused is refused inside the operator it is an operand of. -/
theorem Opening.ofMember_fill {opening : Opening}
    (hbefore : ∀ item ∈ opening.before, Accepted item) (h : ofJson value = .error e) :
    ofMember opening.key (opening.fill value) = .error (.within opening.operator e) := by
  cases opening with
  | negated =>
    change ofMember (Operator.name .not) value = _
    rw [ofMember, Operator.ofName?_name]
    simp only [h]
    rfl
  | combined combinator before after =>
    have hitems : ofItems (before ++ value :: after) = .error e :=
      ofItems_eq_error hbefore h after
    change ofMember (Operator.name (.combine combinator)) (.arr (before ++ value :: after)) = _
    rw [ofMember, Operator.ofName?_name]
    simp only [ofCombination, hitems]
    rfl
  | applied name isField quantifier =>
    -- A field is not an operator, and leaves no trace in the error.
    rw [ofMember, key, Operator.ofName?_of_not_isReserved isField, fill, Json.single]
    simp only [isField, ofFieldValue, Operator.ofName?_name, h]
    rfl

/-- An object is refused for a member that is reached. -/
theorem Layer.ofJson_fill {layer : Layer} (hreached : layer.Reached)
    (h : ofJson value = .error e) :
    ofJson (layer.fill value) = .error (.within layer.opening.operator e) := by
  have hmember := Opening.ofMember_fill hreached.values h
  obtain ⟨before, after, hinsert, hbefore⟩ := Entries.exists_insert_eq layer.opening.key
    (layer.opening.fill value) layer.others.entries
  have haccepted : ∀ entry ∈ before, Accepted (.single entry.1 entry.2) := fun entry hentry =>
    hreached.members entry (hbefore entry hentry).1 (hbefore entry hentry).2
  rw [Layer.fill, ofJson]
  change conjunction <$> ofMembers (Entries.insert _ _ layer.others.entries) = _
  rw [hinsert, ofMembers_eq_error haccepted hmember]
  rfl

/-- The message of an error inside operators names them, outermost first. -/
theorem message_within (operators : List Operator) (e : ParseError) :
    (operators.foldr .within e).message =
      String.join (operators.map fun operator => operator.name ++ ": ") ++ e.message := by
  induction operators with
  | nil => simp
  | cons operator rest ih =>
    have hmessage : (ParseError.within operator (rest.foldr .within e)).message =
        operator.name ++ ": " ++ (rest.foldr .within e).message := rfl
    rw [List.foldr_cons, hmessage, ih, List.map_cons, String.join_cons]
    simp only [String.append_assoc]

/-- A value that is refused at a place that is reached decides about the selector around it: the
error is that of the value inside the operators around the place, and its message names these
operators, outermost first, before it says what is wrong with the value. What comes after the place
has no influence. -/
theorem errors_compose {context : Context} (hreached : context.Reached)
    (h : ofJson value = .error e) :
    ofJson (context.fill value) = .error (context.operators.foldr .within e) ∧
      (context.operators.foldr .within e).message =
        String.join (context.operators.map fun operator => operator.name ++ ": ") ++
          e.message := by
  refine ⟨?_, message_within _ _⟩
  induction context with
  | nil => exact h
  | cons layer rest ih =>
    rw [Context.Reached, List.forall_mem_cons] at hreached
    exact Layer.ofJson_fill hreached.1 (ih hreached.2)

/-- Below a combination, a field and a negation, a value with two operators is refused under the
three operators around it. The combination starts with a selector, goes on with a value that is none
and stands beside a member that is refused too, as does the negation after a comparison. -/
theorem errors_compose_nested :
    let refused : Json := .single "a" (.obj [("$gt", .null), ("$lt", .null)])
    let context : Context :=
      [⟨.combined .and [.single "b" (.bool true)] [.null], .ofList [("c", .single "$of" .null)]⟩,
        ⟨.applied "d" rfl .someItem, .empty⟩,
        ⟨.negated, .ofList [("$lt", .null), ("e", .single "$of" .null)]⟩]
    context.Reached ∧
      context.fill refused = .obj [
        ("$and", .arr [.single "b" (.bool true),
          .single "d" (.single "$elemMatch"
            (.obj [("$lt", .null), ("$not", refused), ("e", .single "$of" .null)])),
          .null]),
        ("c", .single "$of" .null)] ∧
      ∃ e, ofJson (context.fill refused) = .error e ∧
        e.message = "$and: $elemMatch: $not: too many keys in object" := by
  intro refused context
  have hreached : context.Reached := by
    have hlater : ¬"c" < "$and" ∧ ¬"e" < "$not" := by decide
    refine List.forall_mem_cons.mpr ⟨⟨?_, ?_⟩, List.forall_mem_cons.mpr ⟨⟨nofun, nofun⟩,
      List.forall_mem_singleton.mpr ⟨nofun, ?_⟩⟩⟩
    · exact List.forall_mem_singleton.mpr ⟨_, rfl⟩
    · exact List.forall_mem_singleton.mpr fun hlt => absurd hlt hlater.1
    · exact List.forall_mem_cons.mpr ⟨fun _ => ⟨_, rfl⟩,
        List.forall_mem_singleton.mpr fun hlt => absurd hlt hlater.2⟩
  obtain ⟨hrefused, hmessage⟩ :=
    errors_compose hreached (rfl : ofJson refused = .error .tooManyKeys)
  exact ⟨hreached, by rfl, _, hrefused, hmessage⟩

end Selector

end DocQuery
