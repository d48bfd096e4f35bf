import DocQuery.Json.Basic

/-!
# Induction over JSON values

A property of all values follows from its inheritance by arrays and objects. Well-formedness and
the depth of nesting are restated by membership, the form in which such inductions use them.
-/

namespace DocQuery

/-- A member of an object is smaller than the object. -/
private theorem sizeOf_member_lt {members : List (String × Json)} {entry : String × Json}
    (h : entry ∈ members) : sizeOf entry.2 < sizeOf (Json.obj members) := by
  have hlt := List.sizeOf_lt_of_mem h
  obtain ⟨key, value⟩ := entry
  simp only [Prod.mk.sizeOf_spec] at hlt
  simp only [Json.obj.sizeOf_spec]
  omega

/-- Induction over values: arrays inherit from their items, objects from the values of their
members. -/
theorem Json.inductionOn {motive : Json → Prop} (value : Json) (null : motive .null)
    (bool : ∀ b, motive (.bool b)) (num : ∀ n, motive (.num n)) (str : ∀ s, motive (.str s))
    (arr : ∀ items, (∀ item ∈ items, motive item) → motive (.arr items))
    (obj : ∀ members, (∀ entry ∈ members, motive entry.2) → motive (.obj members)) :
    motive value := by
  match value with
  | .null => exact null
  | .bool b => exact bool b
  | .num n => exact num n
  | .str s => exact str s
  | .arr items => exact arr items fun item _ => inductionOn item null bool num str arr obj
  | .obj members =>
    exact obj members fun entry _ => inductionOn entry.2 null bool num str arr obj
termination_by sizeOf value
decreasing_by
  · have := List.sizeOf_lt_of_mem ‹item ∈ items›
    simp only [Json.arr.sizeOf_spec]
    omega
  · exact sizeOf_member_lt ‹entry ∈ members›

namespace Json

/-- Well-formedness of items is that of every item. -/
theorem wellFormedItems_iff (items : List Json) :
    WellFormedItems items ↔ ∀ item ∈ items, item.WellFormed := by
  induction items with
  | nil => simp [WellFormedItems]
  | cons item rest ih => simp [WellFormedItems, ih]

/-- Well-formedness of members is that of every value. -/
theorem wellFormedMembers_iff (members : List (String × Json)) :
    WellFormedMembers members ↔ ∀ entry ∈ members, entry.2.WellFormed := by
  induction members with
  | nil => simp [WellFormedMembers]
  | cons entry rest ih => simp [WellFormedMembers, ih]

/-- An array is well formed exactly if its items are. -/
@[simp] theorem wellFormed_arr (items : List Json) :
    (arr items).WellFormed ↔ ∀ item ∈ items, item.WellFormed := by
  rw [WellFormed, wellFormedItems_iff]

/-- An object is well formed exactly if its keys are sorted and its values are well formed. -/
@[simp] theorem wellFormed_obj (members : List (String × Json)) :
    (obj members).WellFormed ↔
      Entries.Sorted members ∧ ∀ entry ∈ members, entry.2.WellFormed := by
  rw [WellFormed, wellFormedMembers_iff]

/-- A number occurs in a value. -/
inductive Contains (n : Number) : Json → Prop
  | number : Contains n (.num n)
  | item {items : List Json} {item : Json} (mem : item ∈ items) (h : Contains n item) :
    Contains n (.arr items)
  | member {members : List (String × Json)} {entry : String × Json} (mem : entry ∈ members)
    (h : Contains n entry.2) : Contains n (.obj members)

mutual

/-- How many arrays and objects are open at once while the text of a value is read. -/
def depth : Json → Nat
  | .arr items => depthOfItems items + 1
  | .obj members => depthOfMembers members + 1
  | _ => 0

/-- The depth of the deepest item. -/
def depthOfItems : List Json → Nat
  | [] => 0
  | item :: rest => max item.depth (depthOfItems rest)

/-- The depth of the deepest value of a member. -/
def depthOfMembers : List (String × Json) → Nat
  | [] => 0
  | (_, value) :: rest => max value.depth (depthOfMembers rest)

end

/-- A bound on the depth of items is a bound for each of them. -/
theorem depthOfItems_le_iff {items : List Json} {n : Nat} :
    depthOfItems items ≤ n ↔ ∀ item ∈ items, item.depth ≤ n := by
  induction items with
  | nil => simp [depthOfItems]
  | cons item rest ih => rw [depthOfItems, Nat.max_le, ih, List.forall_mem_cons]

/-- A bound on the depth of members is a bound for each of them. -/
theorem depthOfMembers_le_iff {members : List (String × Json)} {n : Nat} :
    depthOfMembers members ≤ n ↔ ∀ entry ∈ members, entry.2.depth ≤ n := by
  induction members with
  | nil => simp [depthOfMembers]
  | cons entry rest ih => rw [depthOfMembers, Nat.max_le, ih, List.forall_mem_cons]

/-- An array is one deeper than its items. -/
theorem depth_arr_le_iff {items : List Json} {n : Nat} :
    (arr items).depth ≤ n + 1 ↔ ∀ item ∈ items, item.depth ≤ n := by
  rw [depth, Nat.add_le_add_iff_right, depthOfItems_le_iff]

/-- An object is one deeper than the values of its members. -/
theorem depth_obj_le_iff {members : List (String × Json)} {n : Nat} :
    (obj members).depth ≤ n + 1 ↔ ∀ entry ∈ members, entry.2.depth ≤ n := by
  rw [depth, Nat.add_le_add_iff_right, depthOfMembers_le_iff]

end Json

/-- Keys that increase strictly are distinct. -/
theorem Entries.Sorted.nodup_keys {α : Type} {entries : List (String × α)}
    (h : Entries.Sorted entries) : (entries.map Prod.fst).Nodup := by
  rw [List.Nodup, List.pairwise_map]
  exact h.imp fun {a b} hlt => Std.ne_of_lt hlt

/-- Under distinct keys, the value of every entry is found. -/
theorem Entries.Sorted.find?_eq_some_iff {α : Type} {entries : List (String × α)}
    (h : Entries.Sorted entries) {key : String} {value : α} :
    Entries.find? key entries = some value ↔ (key, value) ∈ entries := by
  refine ⟨Entries.mem_of_find?_eq_some, fun hmem => ?_⟩
  induction entries with
  | nil => cases hmem
  | cons entry rest ih =>
    obtain ⟨hfirst, hrest⟩ := List.pairwise_cons.mp h
    rw [Entries.find?]
    rcases List.mem_cons.mp hmem with rfl | hmem
    · rw [if_pos rfl]
    · rw [if_neg (Std.ne_of_lt (hfirst _ hmem)), ih hrest hmem]

/-- An entry whose key comes after all others is added at the end. -/
theorem Entries.insert_of_forall_lt {α : Type} {entries : List (String × α)} {key : String}
    (value : α) (h : ∀ entry ∈ entries, entry.1 < key) :
    Entries.insert key value entries = entries ++ [(key, value)] := by
  induction entries with
  | nil => rfl
  | cons entry rest ih =>
    have hlt : entry.1 < key := h entry List.mem_cons_self
    have hnot : ¬key < entry.1 := String.lt_asymm hlt
    have hne : key ≠ entry.1 := (Std.ne_of_lt hlt).symm
    rw [Entries.insert, if_neg hnot, if_neg hne,
      ih fun e he => h e (List.mem_cons_of_mem entry he)]
    rfl

/-- Collecting entries whose keys are in order leaves them as they are. -/
theorem Entries.ofList_of_sorted {α : Type} {entries : List (String × α)}
    (h : Entries.Sorted entries) : Entries.ofList entries = entries := by
  have hcollect : ∀ done : List (String × α), Entries.Sorted (done ++ entries) →
      entries.foldl (fun sorted entry => Entries.insert entry.1 entry.2 sorted) done =
        done ++ entries := by
    clear h
    induction entries with
    | nil => exact fun done _ => (List.append_nil done).symm
    | cons entry rest ih =>
      intro done hsorted
      have hlast : ∀ e ∈ done, e.1 < entry.1 := fun e he =>
        (List.pairwise_append.mp hsorted).2.2 e he entry List.mem_cons_self
      rw [List.foldl_cons, Entries.insert_of_forall_lt entry.2 hlast,
        ih (done ++ [entry]) (by rwa [List.append_assoc]), List.append_assoc]
      rfl
  exact hcollect [] h

/-- Changing the values changes what is found. -/
theorem Entries.find?_map {α β : Type} (f : α → β) (key : String) (entries : List (String × α)) :
    Entries.find? key (entries.map fun entry => (entry.1, f entry.2)) =
      (Entries.find? key entries).map f := by
  induction entries with
  | nil => rfl
  | cons entry rest ih =>
    rw [List.map_cons, Entries.find?, Entries.find?, ih]
    split <;> rfl

/-- Changing the values leaves the keys in order. -/
theorem Entries.Sorted.map {α β : Type} {entries : List (String × α)} (h : Entries.Sorted entries)
    (f : α → β) : Entries.Sorted (entries.map fun entry => (entry.1, f entry.2)) :=
  List.pairwise_map.mpr h

end DocQuery
