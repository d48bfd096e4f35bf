import DocQuery.Proofs.View.Compile

/-!
# Queries of options that agree

What is read by some names is the same for two requests that agree on these names. Two requests
whose options agree apart from the keys and the direction come to the same verdict up to the check
of the keys, if they do so when the keys and the direction are read; the queries differ in what
these are read into. A query that cannot be put together is refused for a malformed option or for
grouping a built-in view, never for its keys.
-/

namespace DocQuery

namespace Options

variable {o o' : Options} {view : String}

/-- Setting an option by the name that it is found by replaces it. -/
theorem first?_insert_of_first? {names : List String} {name : String} {param : Param}
    (h : o.first? names = some (name, param)) (other : Param) :
    first? (o.insert name other) names = some (name, other) := by
  induction names with
  | nil => cases h
  | cons candidate rest ih =>
    unfold first? at h ih ⊢
    rw [List.findSome?_cons] at h ⊢
    by_cases hname : candidate = name
    · rw [hname, KeyMap.get?_insert_self]
      rfl
    · rw [KeyMap.get?_insert_ne o hname]
      cases hget : o.get? candidate with
      | none =>
        rw [hget] at h
        exact ih h
      | some found =>
        rw [hget] at h
        cases h
        exact absurd rfl hname

/-- The option that counts is present, under one of the names. -/
theorem mem_of_first? {names : List String} {name : String} {param : Param}
    (h : o.first? names = some (name, param)) : name ∈ names ∧ o.get? name = some param := by
  obtain ⟨candidate, hmem, hget⟩ := List.exists_of_findSome?_eq_some h
  obtain ⟨found, hfound, heq⟩ := Option.map_eq_some_iff.mp hget
  cases heq
  exact ⟨hmem, hfound⟩

/-- Two requests have the same options by the names given. -/
def AgreeOn (names : List String) (o o' : Options) : Prop :=
  ∀ name ∈ names, o.get? name = o'.get? name

namespace AgreeOn

variable {names : List String}

/-- Requests that agree on some names agree on fewer. -/
theorem mono {names' : List String} (h : AgreeOn names o o') (hsub : names' ⊆ names) :
    AgreeOn names' o o' := fun name hname => h name (hsub hname)

/-- The same of several options counts in both requests. -/
theorem first?_eq (h : AgreeOn names o o') : o.first? names = o'.first? names := by
  unfold first?
  induction names with
  | nil => rfl
  | cons name rest ih =>
    rw [List.findSome?_cons, List.findSome?_cons, h name List.mem_cons_self,
      ih (h.mono (List.subset_cons_self name rest))]

/-- An option is read alike by any of its names. -/
theorem readFirst_eq {α : Type} (h : AgreeOn names o o') (absent : α)
    (reader : String → Param → Except OptionError α) :
    o.readFirst names absent reader = o'.readFirst names absent reader := by
  rw [readFirst, readFirst, h.first?_eq]

/-- An option is read alike by its only name. -/
theorem read_eq {α : Type} {name : String} (h : AgreeOn names o o') (hname : name ∈ names)
    (absent : α) (reader : String → Param → Except OptionError α) :
    o.read name absent reader = o'.read name absent reader :=
  (h.mono (List.cons_subset.mpr ⟨hname, List.nil_subset _⟩)).readFirst_eq absent reader

/-- Grouping is read from the level and an option of its own. -/
theorem group_eq (h : AgreeOn ["group_level", "group"] o o') : o.group = o'.group := by
  have hlevel : o.groupLevel = o'.groupLevel := h.read_eq (by decide) 0 _
  have hgroup : o.boolean "group" false = o'.boolean "group" false := h.read_eq (by decide) false _
  unfold group
  rw [hlevel, hgroup]

/-- Reduction is read from what grouping is read from and an option of its own. -/
theorem reduce_eq (h : AgreeOn ["reduce", "group_level", "group"] o o') :
    o.reduce = o'.reduce := by
  have hgroup : o.group = o'.group := (h.mono (List.subset_cons_self _ _)).group_eq
  unfold reduce
  rw [hgroup, h.read_eq (by decide)]

/-- Conflicts are read from two options. -/
theorem conflicts_eq (h : AgreeOn ["meta", "conflicts"] o o') : o.conflicts = o'.conflicts := by
  have hmeta : o.metadata = o'.metadata := by
    unfold metadata flag
    rw [h "meta" (by decide)]
  have hconflicts : o.boolean "conflicts" false = o'.boolean "conflicts" false :=
    h.read_eq (by decide) false _
  unfold conflicts
  rw [hmeta, hconflicts]

/-- Whether rows are sorted is read from two options. -/
theorem sorted_eq (h : AgreeOn ["sorted", "descending"] o o') : o.sorted = o'.sorted := by
  have hdescending : o.contains "descending" = o'.contains "descending" := by
    unfold KeyMap.contains
    rw [h "descending" (by decide)]
  unfold sorted
  rw [hdescending, h.read_eq (by decide)]

end AgreeOn

/-- Two requests have the same options, apart from the names given. -/
def AgreeApartFrom (names : List String) (o o' : Options) : Prop :=
  ∀ name, name ∉ names → o.get? name = o'.get? name

/-- The names that the keys and the direction of a query are read from. -/
def rangeNames : List String :=
  ["descending", "startkey", "start_key", "endkey", "end_key", "key", "keys"]

/-- Setting an option leaves the others as they are. -/
theorem agreeApartFrom_insert {names : List String} {name : String} (h : name ∈ names)
    (o : Options) (param : Param) : AgreeApartFrom names o (o.insert name param) :=
  fun _ hother => (KeyMap.get?_insert_ne o (ne_of_mem_of_not_mem h hother).symm param).symm

namespace AgreeApartFrom

variable {names : List String}

/-- Requests that agree apart from some names agree apart from more. -/
theorem mono {names' : List String} (h : AgreeApartFrom names o o') (hsub : names ⊆ names') :
    AgreeApartFrom names' o o' := fun name hname => h name fun hmem => hname (hsub hmem)

/-- Agreement apart from some names goes on from one request to another. -/
theorem trans {o'' : Options} (h : AgreeApartFrom names o o') (h' : AgreeApartFrom names o' o'') :
    AgreeApartFrom names o o'' := fun name hname => (h name hname).trans (h' name hname)

/-- Requests agree on names that are none of those apart. -/
theorem agreeOn {read : List String} (h : AgreeApartFrom names o o')
    (hread : ∀ name ∈ read, name ∉ names) : AgreeOn read o o' :=
  fun name hname => h name (hread name hname)

/-- The same option counts in both requests, if its names are none of those apart. -/
theorem first?_eq {read : List String} (h : AgreeApartFrom names o o')
    (hread : ∀ name ∈ read, name ∉ names) : o.first? read = o'.first? read :=
  (h.agreeOn hread).first?_eq

/-- An option is read alike, if its names are none of those apart. -/
theorem readFirst_eq {α : Type} {read : List String} (h : AgreeApartFrom names o o')
    (hread : ∀ name ∈ read, name ∉ names) (absent : α)
    (reader : String → Param → Except OptionError α) :
    o.readFirst read absent reader = o'.readFirst read absent reader :=
  (h.agreeOn hread).readFirst_eq absent reader

/-- An option is read alike, if its only name is none of those apart. -/
theorem read_eq {α : Type} {name : String} (h : AgreeApartFrom names o o') (hname : name ∉ names)
    (absent : α) (reader : String → Param → Except OptionError α) :
    o.read name absent reader = o'.read name absent reader :=
  h.readFirst_eq (List.forall_mem_singleton.mpr hname) absent reader

/-- Whether the order of rows is given can be read whatever the direction is. -/
theorem sameVerdict_sorted (h : AgreeApartFrom rangeNames o o') :
    SameVerdict (fun _ _ => True) o.sorted o'.sorted := by
  unfold sorted read readFirst
  rw [h.first?_eq (by decide)]
  split
  · exact .bind_eq rfl fun _ => .accepted trivial
  · exact .accepted trivial

section Verdicts

variable {D T : Bool → Bool → Prop} {S E K : Option String → Option String → Prop}
  {L : List String → List String → Prop}

/-- Paging comes to the same verdict if the direction and the ends of the range do. -/
theorem sameVerdict_paging (h : AgreeApartFrom rangeNames o o')
    (hdescending : SameVerdict D o.descending o'.descending)
    (hstart : SameVerdict S o.startKey o'.startKey) (hend : SameVerdict E o.endKey o'.endKey) :
    SameVerdict (fun p p' => ∃ descending startKey endKey, D p.descending descending ∧
        S p.startKey startKey ∧ E p.endKey endKey ∧
        p' = { p with descending, startKey, endKey })
      o.paging o'.paging := by
  refine .bind_eq (h.read_eq (by decide) (-1) _) fun limit => ?_
  refine .bind_eq (h.read_eq (by decide) 0 _) fun skip => ?_
  refine hdescending.bind fun descending descending' hd => ?_
  refine hstart.bind fun startKey startKey' hs => ?_
  refine hend.bind fun endKey endKey' he => ?_
  refine .bind_eq (h.read_eq (by decide) true _) fun inclusiveEnd => ?_
  exact .accepted ⟨descending', startKey', endKey', hd, hs, he, rfl⟩

/-- Requests that agree apart from the keys and the direction are put together alike, if the keys
and the direction are read alike. -/
theorem sameVerdict_assembleQuery (h : AgreeApartFrom rangeNames o o')
    (hdescending : SameVerdict D o.descending o'.descending)
    (hstart : SameVerdict S o.startKey o'.startKey) (hend : SameVerdict E o.endKey o'.endKey)
    (hkey : SameVerdict K o.key o'.key) (hkeys : SameVerdict L o.keys o'.keys)
    (hsorted : SameVerdict T o.sorted o'.sorted) (view : String) :
    SameVerdict (fun q q' => ∃ descending startKey endKey key keys sorted,
        D q.paging.descending descending ∧ S q.paging.startKey startKey ∧
        E q.paging.endKey endKey ∧ K q.key key ∧ L q.keys keys ∧ T q.sorted sorted ∧
        q' = { q with
          paging := { q.paging with descending, startKey, endKey }
          key, keys, sorted })
      (o.assembleQuery view) (o'.assembleQuery view) := by
  refine (h.sameVerdict_paging hdescending hstart hend).bind fun paging paging' hpaging => ?_
  obtain ⟨descending, startKey, endKey, hd, hs, he, rfl⟩ := hpaging
  refine .bind_eq (h.agreeOn (by decide)).reduce_eq fun reduce => ?_
  refine .bind_eq (h.agreeOn (by decide)).group_eq fun group => ?_
  refine .bind_eq (h.read_eq (by decide) 0 _) fun groupLevel => ?_
  refine .bind_eq rfl fun _ => ?_
  refine .bind_eq (h.read_eq (by decide) false _) fun includeDocs => ?_
  refine .bind_eq (h.agreeOn (by decide)).conflicts_eq fun conflicts => ?_
  refine .bind_eq (h.read_eq (by decide) false _) fun attachments => ?_
  refine .bind_eq (h.read_eq (by decide) UpdateMode.before _) fun update => ?_
  refine .bind_eq (h.read_eq (by decide) false _) fun updateSeq => ?_
  refine .bind_eq (h.readFirst_eq (by decide) none _) fun endKeyDocId => ?_
  refine .bind_eq (h.readFirst_eq (by decide) none _) fun startKeyDocId => ?_
  refine hkey.bind fun key key' hk => ?_
  refine hkeys.bind fun keys keys' hks => ?_
  refine hsorted.bind fun sorted sorted' ht => ?_
  refine .bind_eq (h.read_eq (by decide) false _) fun attEncodingInfo => ?_
  exact .accepted ⟨descending, startKey, endKey, key', keys', sorted', hd, hs, he, hk, hks, ht, rfl⟩

end Verdicts

end AgreeApartFrom

/-- Whether an error is found before the keys are checked: an option is malformed, or a built-in
view is grouped. -/
def BeforeKeys : OptionError → Prop
  | .malformed _ => True
  | .inconsistent cause => cause = .groupLevel ∨ cause = .group

/-- An option is refused before the keys are checked if its values are. -/
theorem readFirst_refusedFor {α : Type} {names : List String} {absent : α}
    {read : String → Param → Except OptionError α}
    (h : ∀ name param, RefusedFor BeforeKeys (read name param)) :
    RefusedFor BeforeKeys (o.readFirst names absent read) := by
  unfold readFirst
  split
  · exact h _ _
  · exact .of_ok _

/-- A value that is not accepted is refused before the keys are checked. -/
theorem accept_refusedFor {α : Type} (reader : Param → Option α) (name : String) (param : Param) :
    RefusedFor BeforeKeys (accept reader name param) := by
  unfold accept
  split
  · exact .of_ok _
  · exact .of_error trivial

private theorem boolean_refusedFor (name : String) (absent : Bool) :
    RefusedFor BeforeKeys (o.boolean name absent) :=
  readFirst_refusedFor fun _ _ => accept_refusedFor _ _ _

private theorem docId_refusedFor (names : List String) : RefusedFor BeforeKeys (o.docId names) :=
  readFirst_refusedFor fun _ _ => (accept_refusedFor _ _ _).map some

private theorem keyOption_refusedFor (names : List String) :
    RefusedFor BeforeKeys (o.keyOption names) := by
  refine readFirst_refusedFor fun name param => .map some ?_
  unfold readKey
  split
  · exact .of_ok _
  · split
    · exact .of_ok _
    · exact .of_error trivial

private theorem keys_refusedFor : RefusedFor BeforeKeys o.keys := by
  refine readFirst_refusedFor fun _ param => ?_
  unfold readKeys
  split <;> split
  · exact .of_ok _
  · exact .of_error trivial
  · exact .of_ok _
  · exact .of_error trivial

private theorem group_refusedFor : RefusedFor BeforeKeys o.group := by
  unfold group
  split
  · exact .of_ok _
  · exact boolean_refusedFor _ _

private theorem reduce_refusedFor : RefusedFor BeforeKeys o.reduce := by
  unfold reduce
  split
  · exact .of_ok _
  · exact readFirst_refusedFor fun _ _ => (accept_refusedFor _ _ _).map some

private theorem conflicts_refusedFor : RefusedFor BeforeKeys o.conflicts := by
  unfold conflicts
  split
  · exact .of_ok _
  · exact boolean_refusedFor _ _

private theorem checkGrouping_refusedFor (view : String) (group : Bool) (groupLevel : Nat) :
    RefusedFor BeforeKeys (checkGrouping view group groupLevel) := by
  unfold checkGrouping
  split
  · split
    · exact .of_error (.inl rfl)
    · split
      · exact .of_error (.inr rfl)
      · exact .of_ok _
  · exact .of_ok _

private theorem paging_refusedFor : RefusedFor BeforeKeys o.paging := by
  refine (readFirst_refusedFor fun _ _ => accept_refusedFor _ _ _).bind fun limit => ?_
  refine (readFirst_refusedFor fun _ _ => accept_refusedFor _ _ _).bind fun skip => ?_
  refine (boolean_refusedFor _ _).bind fun descending => ?_
  refine (keyOption_refusedFor _).bind fun startKey => ?_
  refine (keyOption_refusedFor _).bind fun endKey => ?_
  exact (boolean_refusedFor _ _).bind fun inclusiveEnd => .of_ok _

/-- A query that cannot be put together is not refused for its keys. -/
theorem assembleQuery_refusedFor : RefusedFor BeforeKeys (o.assembleQuery view) := by
  refine paging_refusedFor.bind fun paging => ?_
  refine reduce_refusedFor.bind fun reduce => ?_
  refine group_refusedFor.bind fun group => ?_
  refine (readFirst_refusedFor fun _ _ => accept_refusedFor _ _ _).bind fun groupLevel => ?_
  refine (checkGrouping_refusedFor _ _ _).bind fun _ => ?_
  refine (boolean_refusedFor _ _).bind fun includeDocs => ?_
  refine conflicts_refusedFor.bind fun conflicts => ?_
  refine (boolean_refusedFor _ _).bind fun attachments => ?_
  refine (readFirst_refusedFor fun _ _ => accept_refusedFor _ _ _).bind fun update => ?_
  refine (boolean_refusedFor _ _).bind fun updateSeq => ?_
  refine (docId_refusedFor _).bind fun endKeyDocId => ?_
  refine (docId_refusedFor _).bind fun startKeyDocId => ?_
  refine (keyOption_refusedFor _).bind fun key => ?_
  refine keys_refusedFor.bind fun keys => ?_
  refine (readFirst_refusedFor fun _ _ => ?_).bind fun sorted => ?_
  · exact (accept_refusedFor _ _ _).bind fun value => .of_ok _
  · exact (boolean_refusedFor _ _).bind fun attEncodingInfo => .of_ok _

end Options

end DocQuery
