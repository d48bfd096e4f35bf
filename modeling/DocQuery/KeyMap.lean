/-!
# Maps with sorted text keys

A map is the list of its entries in increasing order of their keys, texts being ordered by code
points. Inserting under a key that is present replaces its value.
-/

namespace DocQuery

namespace Entries

variable {α : Type}

/-- Adds an entry at its place, replacing an entry with the same key. -/
def insert (key : String) (value : α) : List (String × α) → List (String × α)
  | [] => [(key, value)]
  | (k, v) :: rest =>
    if key < k then (key, value) :: (k, v) :: rest
    else if key = k then (key, value) :: rest
    else (k, v) :: insert key value rest

/-- The value of the first entry with a key. -/
def find? (key : String) : List (String × α) → Option α
  | [] => none
  | (k, v) :: rest => if k = key then some v else find? key rest

/-- The entries sorted by key, the last of several entries with one key winning. -/
def ofList (entries : List (String × α)) : List (String × α) :=
  entries.foldl (fun sorted entry => insert entry.1 entry.2 sorted) []

/-- Whether the keys increase strictly. -/
def Sorted (entries : List (String × α)) : Prop :=
  entries.Pairwise fun a b => a.1 < b.1

/-- The entry added by an insertion is the one found under its key. -/
theorem find?_insert_self (key : String) (value : α) (entries : List (String × α)) :
    find? key (insert key value entries) = some value := by
  induction entries with
  | nil => simp [insert, find?]
  | cons entry rest ih =>
    obtain ⟨k, v⟩ := entry
    by_cases hlt : key < k
    · simp [insert, find?, hlt]
    · by_cases heq : key = k
      · simp [insert, find?, heq]
      · simp [insert, find?, hlt, heq, Ne.symm heq, ih]

/-- An insertion leaves the values of the other keys alone. -/
theorem find?_insert_ne {key other : String} (h : other ≠ key) (value : α)
    (entries : List (String × α)) :
    find? other (insert key value entries) = find? other entries := by
  induction entries with
  | nil => simp [insert, find?, Ne.symm h]
  | cons entry rest ih =>
    obtain ⟨k, v⟩ := entry
    by_cases hlt : key < k
    · simp [insert, find?, hlt, Ne.symm h]
    · by_cases heq : key = k
      · subst heq
        simp [insert, find?, Ne.symm h]
      · simp [insert, find?, hlt, heq, ih]

/-- What is found under a key is the value of an entry with this key. -/
theorem mem_of_find?_eq_some {key : String} {value : α} {entries : List (String × α)}
    (h : find? key entries = some value) : (key, value) ∈ entries := by
  induction entries with
  | nil => cases h
  | cons entry rest ih =>
    obtain ⟨k, v⟩ := entry
    rw [find?] at h
    by_cases hkey : k = key
    · rw [if_pos hkey] at h
      cases h
      rw [hkey]
      exact List.mem_cons_self
    · rw [if_neg hkey] at h
      exact List.mem_cons_of_mem _ (ih h)

/-- Nothing is found under a key that no entry has. -/
theorem find?_eq_none_iff {key : String} {entries : List (String × α)} :
    find? key entries = none ↔ key ∉ entries.map Prod.fst := by
  induction entries with
  | nil => simp [find?]
  | cons entry rest ih =>
    obtain ⟨k, v⟩ := entry
    rw [find?, List.map_cons, List.mem_cons, not_or]
    by_cases hkey : k = key
    · simp [hkey]
    · rw [if_neg hkey, ih]
      exact ⟨fun h => ⟨Ne.symm hkey, h⟩, And.right⟩

/-- An insertion adds no other entry. -/
theorem eq_or_mem_of_mem_insert {key : String} {value : α} {entries : List (String × α)}
    {entry : String × α} (h : entry ∈ insert key value entries) :
    entry = (key, value) ∨ entry ∈ entries := by
  induction entries with
  | nil => simpa [insert] using h
  | cons first rest ih =>
    obtain ⟨k, v⟩ := first
    simp only [insert] at h
    split at h
    · simpa using h
    · split at h
      · rcases List.mem_cons.1 h with h | h
        · exact .inl h
        · exact .inr (List.mem_cons_of_mem _ h)
      · rcases List.mem_cons.1 h with h | h
        · exact .inr (h ▸ List.mem_cons_self)
        · exact (ih h).imp_right (List.mem_cons_of_mem _)

/-- Insertion keeps the keys in order. -/
theorem Sorted.insert {entries : List (String × α)} (h : Sorted entries) (key : String)
    (value : α) : Sorted (Entries.insert key value entries) := by
  induction entries with
  | nil => simp [Sorted, Entries.insert]
  | cons first rest ih =>
    obtain ⟨k, v⟩ := first
    have hall := (List.pairwise_cons.1 h).1
    have hrest : Sorted rest := (List.pairwise_cons.1 h).2
    simp only [Entries.insert]
    split
    · rename_i hlt
      refine List.pairwise_cons.2 ⟨fun entry hmem => ?_, h⟩
      rcases List.mem_cons.1 hmem with rfl | hmem
      · exact hlt
      · exact String.lt_trans hlt (hall _ hmem)
    · rename_i hnot
      split
      · rename_i heq
        subst heq
        exact List.pairwise_cons.2 ⟨fun entry hmem => hall entry hmem, hrest⟩
      · rename_i hne
        refine List.pairwise_cons.2 ⟨fun entry hmem => ?_, ih hrest⟩
        rcases eq_or_mem_of_mem_insert hmem with rfl | hmem
        · exact Std.lt_of_le_of_ne (String.not_lt.1 hnot) (Ne.symm hne)
        · exact hall _ hmem

/-- Collecting entries puts their keys in order. -/
theorem sorted_ofList (entries : List (String × α)) : Sorted (ofList entries) := by
  suffices h : ∀ sorted : List (String × α), Sorted sorted →
      Sorted (entries.foldl (fun sorted entry => insert entry.1 entry.2 sorted) sorted) from
    h [] List.Pairwise.nil
  induction entries with
  | nil => exact fun _ h => h
  | cons entry rest ih => exact fun _ h => ih _ (h.insert _ _)

/-- Collecting entries adds none. -/
theorem mem_of_mem_ofList {entries : List (String × α)} {entry : String × α}
    (h : entry ∈ ofList entries) : entry ∈ entries := by
  suffices go : ∀ sorted : List (String × α),
      entry ∈ entries.foldl (fun sorted e => insert e.1 e.2 sorted) sorted →
        entry ∈ sorted ∨ entry ∈ entries from (go [] h).resolve_left List.not_mem_nil
  clear h
  induction entries with
  | nil => exact fun _ h => .inl h
  | cons e rest ih =>
    intro sorted h
    rcases ih _ h with h | h
    · rcases eq_or_mem_of_mem_insert h with rfl | h
      · exact .inr List.mem_cons_self
      · exact .inl h
    · exact .inr (List.mem_cons_of_mem _ h)

end Entries

/-- A finite map from texts. -/
structure KeyMap (α : Type) where
  /-- The entries, in increasing order of their keys. -/
  entries : List (String × α)
  /-- The keys increase strictly. -/
  sorted : Entries.Sorted entries

namespace KeyMap

variable {α : Type}

/-- The map without entries. -/
def empty : KeyMap α := ⟨[], List.Pairwise.nil⟩

/-- The map of a list of entries, the last of several entries with one key winning. -/
def ofList (entries : List (String × α)) : KeyMap α :=
  ⟨Entries.ofList entries, Entries.sorted_ofList entries⟩

/-- The map with one key set. -/
def insert (m : KeyMap α) (key : String) (value : α) : KeyMap α :=
  ⟨Entries.insert key value m.entries, m.sorted.insert key value⟩

/-- The value of a key. -/
def get? (m : KeyMap α) (key : String) : Option α := Entries.find? key m.entries

/-- Whether a key is set. -/
def contains (m : KeyMap α) (key : String) : Bool := (m.get? key).isSome

/-- The number of keys set. -/
def size (m : KeyMap α) : Nat := m.entries.length

/-- The key set last has the value it was set to. -/
theorem get?_insert_self (m : KeyMap α) (key : String) (value : α) :
    (m.insert key value).get? key = some value :=
  Entries.find?_insert_self key value m.entries

/-- Setting a key leaves the other keys alone. -/
theorem get?_insert_ne (m : KeyMap α) {key other : String} (h : other ≠ key) (value : α) :
    (m.insert key value).get? other = m.get? other :=
  Entries.find?_insert_ne h value m.entries

end KeyMap

end DocQuery
