import DocQuery.Proofs.View.Limits
import DocQuery.Proofs.View.Validation

/-!
# What holds of every compiled query

The fields of a query that compiles, from options or from the body of a search for documents, do
not contradict each other. Several options consult others and treat them as absent if they cannot be
read, so that every implication between two fields is derived from how both of them are read.
-/

namespace DocQuery

/-- Whether a query compiles from options, or from the body of a search for documents. -/
inductive ViewQuery.Compiled : ViewQuery → Prop
  | ofOptions {o : Options} {view : String} {q : ViewQuery} (h : o.viewQuery view = .ok q) :
    Compiled q
  | ofBody {body : Json} {q : ViewQuery} (h : ViewQuery.ofSearch body = .ok q) : Compiled q

/-- A search that goes on after a bookmark or skips documents, but not both, in no order. -/
structure DocumentSearch.Consistent (s : DocumentSearch) : Prop where
  skip_nonneg : 0 ≤ s.skip
  bookmark_ne_empty : s.bookmark ≠ some ""
  skip_of_bookmark : s.bookmark ≠ none → s.skip = 0
  unsorted : s.sort = []

/-- A query whose fields do not contradict each other. -/
structure ViewQuery.Consistent (q : ViewQuery) : Prop where
  validated : q.validate = .ok ()
  grouped_of_level : 0 < q.groupLevel → q.group = true
  reduced_of_grouped : q.group = true → q.reduce = some true
  ungrouped_of_builtin : ViewName.isBuiltin q.view = true → q.group = false ∧ q.groupLevel = 0
  sorted_of_descending : q.paging.descending = true → q.sorted = true
  keys_alone : q.keys ≠ [] → q.key = none ∧ q.paging.startKey = none ∧ q.paging.endKey = none
  range_ordered : ∀ first last, q.paging.startKey = some first → q.paging.endKey = some last →
    q.paging.compareKey first last ≠ .gt
  key_not_before : ∀ key first, q.key = some key → q.paging.startKey = some first →
    q.paging.compareKey key first ≠ .lt
  key_not_after : ∀ key last, q.key = some key → q.paging.endKey = some last →
    q.paging.compareKey key last ≠ .gt
  skip_nonneg : 0 ≤ q.paging.skip
  level_least : -1 ≤ q.reduceGroupLevel
  level_whole_key : q.reduceGroupLevel = -1 ↔ q.group = true ∧ q.groupLevel = 0
  level_ungrouped : q.reduceGroupLevel = 0 ↔ q.group = false
  level_positive : 0 < q.reduceGroupLevel ↔ q.group = true ∧ q.groupLevel ≠ 0
  searches_documents : ∀ s, q.search = some s → q.view = "_all_docs" ∧ q.includeDocs = true ∧
    q.paging = .everything ∧ s.Consistent

namespace Options

variable {o : Options}

/-- A level that can be read and is not zero groups rows. -/
theorem group_of_groupLevel {level : Nat} (hlevel : o.groupLevel = .ok level) (h : 0 < level) :
    o.group = .ok true := by
  obtain ⟨n, rfl⟩ := Nat.exists_eq_succ_of_ne_zero h.ne'
  simp only [group, hlevel]

/-- Grouped rows are reduced, whatever is said of reducing. -/
theorem reduce_of_group (h : o.group = .ok true) : o.reduce = .ok (some true) := by
  simp only [reduce, h]

/-- An option with a value other than that of an absent one is present. -/
theorem contains_of_boolean {name : String} {absent value : Bool}
    (h : o.boolean name absent = .ok value) (hne : value ≠ absent) : o.contains name = true := by
  cases hget : o.get? name with
  | some param => simp [KeyMap.contains, hget]
  | none =>
    have habsent : o.boolean name absent = .ok absent :=
      readFirst_of_absent _ _ (by simpa using hget)
    exact absurd (Except.ok.inj (h.symm.trans habsent)) hne

/-- Where a direction is given, rows are ordered, even if they are asked not to be. -/
theorem sorted_of_contains {sorted : Bool} (h : o.sorted = .ok sorted)
    (hcontains : o.contains "descending" = true) : sorted = true := by
  obtain rfl | ⟨name, param, h⟩ := readFirst_eq_ok h
  · rfl
  · obtain ⟨value, -, h⟩ := bind_eq_ok_iff.mp h
    rw [← Except.ok.inj h, hcontains, Bool.or_true]

/-- An empty bookmark counts as none. -/
theorem bookmark_ne_empty {bookmark : Option String} (h : o.bookmark = .ok bookmark) :
    bookmark ≠ some "" := by
  obtain rfl | ⟨name, param, h⟩ := readFirst_eq_ok h
  · exact nofun
  · obtain ⟨s, -, rfl⟩ := Option.map_eq_some_iff.mp (accept_eq_ok_iff.mp h)
    split
    · exact nofun
    · rintro ⟨⟩
      exact absurd rfl ‹_›

end Options

namespace ViewQuery

/-- A level beyond the signed 64-bit range stays positive. -/
theorem clampSigned_natCast_pos {n : Nat} (h : 0 < n) : 0 < clampSigned n := by
  simp only [clampSigned, Number.signedBound]
  omega

/-- The level of reduced rows, given that a level that is not zero groups them. -/
theorem reduceGroupLevel_cases {q : ViewQuery} (h : 0 < q.groupLevel → q.group = true) :
    q.group = true ∧ q.groupLevel = 0 ∧ q.reduceGroupLevel = -1 ∨
    q.group = false ∧ q.groupLevel = 0 ∧ q.reduceGroupLevel = 0 ∨
    q.group = true ∧ q.groupLevel ≠ 0 ∧ 0 < q.reduceGroupLevel := by
  rcases Nat.eq_zero_or_pos q.groupLevel with hlevel | hlevel
  · cases hgroup : q.group with
    | false => exact .inr (.inl ⟨rfl, hlevel, by simp [reduceGroupLevel, hgroup, hlevel]; rfl⟩)
    | true => exact .inl ⟨rfl, hlevel, by simp [reduceGroupLevel, hgroup, hlevel]⟩
  · have hlevelNe : q.groupLevel ≠ 0 := Nat.ne_of_gt hlevel
    have hclamp : q.reduceGroupLevel = clampSigned q.groupLevel := by
      simp [reduceGroupLevel, hlevelNe]
    exact .inr (.inr ⟨h hlevel, hlevelNe, hclamp ▸ clampSigned_natCast_pos hlevel⟩)

/-- Only what is read has to be looked at: the checks of a query and its levels follow. -/
theorem Consistent.of_validate {q : ViewQuery} (hvalidate : q.validate = .ok ())
    (hgroup : 0 < q.groupLevel → q.group = true) (hreduce : q.group = true → q.reduce = some true)
    (hbuiltin : ViewName.isBuiltin q.view = true → q.group = false ∧ q.groupLevel = 0)
    (hsorted : q.paging.descending = true → q.sorted = true) (hskip : 0 ≤ q.paging.skip)
    (hsearch : ∀ s, q.search = some s → q.view = "_all_docs" ∧ q.includeDocs = true ∧
      q.paging = .everything ∧ s.Consistent) : q.Consistent := by
  obtain ⟨hclash, hrange, hkey⟩ := (validate_eq_ok_iff q).mp hvalidate
  have hinside := fun key hq => (validateKey_eq_ok_iff q.paging key).mp (hkey key hq)
  have hlevel := reduceGroupLevel_cases hgroup
  exact {
    validated := hvalidate
    grouped_of_level := hgroup
    reduced_of_grouped := hreduce
    ungrouped_of_builtin := hbuiltin
    sorted_of_descending := hsorted
    keys_alone := fun hkeys => by simpa [KeysClash, hkeys] using hclash
    range_ordered := (Paging.validate_eq_ok_iff _).mp hrange
    key_not_before := fun key first hq => (hinside key hq).1 first
    key_not_after := fun key last hq => (hinside key hq).2 last
    skip_nonneg := hskip
    level_least := by omega
    level_whole_key := by grind
    level_ungrouped := by grind
    level_positive := by grind
    searches_documents := hsearch }

/-- A query that compiles from options is consistent. -/
theorem consistent_of_viewQuery {o : Options} {view : String} {q : ViewQuery}
    (h : o.viewQuery view = .ok q) : q.Consistent := by
  have hq := Options.viewQuery_eq_ok_iff.mp h
  refine .of_validate hq.validate (fun hlevel => ?_) (fun hgroup => ?_) (fun hbuiltin => ?_)
    (fun hdescending => ?_) (Options.skip_nonneg hq.paging.skip) (fun s hs => ?_)
  · exact Except.ok.inj (hq.group.symm.trans (Options.group_of_groupLevel hq.groupLevel hlevel))
  · exact Except.ok.inj (hq.reduce.symm.trans (Options.reduce_of_group (hgroup ▸ hq.group)))
  · exact (hq.notGrouped (hq.view_eq ▸ hbuiltin)).symm
  · have hread : o.boolean "descending" false = .ok true := hdescending ▸ hq.paging.descending
    exact Options.sorted_of_contains hq.sorted (Options.contains_of_boolean hread (by decide))
  · cases hs.symm.trans hq.search

/-- What compiles from the body of a search is a query of all documents with the search. -/
theorem exists_search_of_ofSearch {body : Json} {q : ViewQuery} (h : ofSearch body = .ok q) :
    ∃ (conflicts : Bool) (s : DocumentSearch), s.Consistent ∧ q = { ofView "_all_docs" with
      includeDocs := true, conflicts, search := some s } := by
  obtain ⟨options, -, h⟩ := bind_eq_ok_iff.mp h
  dsimp only at h
  split at h
  · cases h
  obtain ⟨selector, -, h⟩ := bind_eq_ok_iff.mp h
  obtain ⟨limit, -, h⟩ := bind_eq_ok_iff.mp h
  obtain ⟨skip, hskip, h⟩ := bind_eq_ok_iff.mp h
  obtain ⟨fields, -, h⟩ := bind_eq_ok_iff.mp h
  obtain ⟨conflicts, -, h⟩ := bind_eq_ok_iff.mp h
  obtain ⟨bookmark, hbookmark, h⟩ := bind_eq_ok_iff.mp h
  obtain ⟨sort, -, h⟩ := bind_eq_ok_iff.mp h
  split at h
  · cases h
  rename_i hsort
  obtain ⟨_, -, h⟩ := bind_eq_ok_iff.mp h
  cases h
  refine ⟨conflicts, _, ⟨?_, Options.bookmark_ne_empty hbookmark, fun hpresent => ?_, ?_⟩, rfl⟩
  · dsimp only
    split
    · exact le_refl 0
    · exact Options.skip_nonneg hskip
  · exact if_pos (Option.isSome_iff_ne_none.mpr hpresent)
  · simpa using hsort

/-- A query that compiles from the body of a search is consistent. -/
theorem consistent_of_ofSearch {body : Json} {q : ViewQuery} (h : ofSearch body = .ok q) :
    q.Consistent := by
  obtain ⟨conflicts, s, hs, rfl⟩ := exists_search_of_ofSearch h
  refine .of_validate rfl (fun hlevel => ?_) nofun (fun _ => ⟨rfl, rfl⟩) nofun (le_refl 0)
    fun t ht => ?_
  · exact absurd hlevel (Nat.lt_irrefl 0)
  · cases ht
    exact ⟨rfl, rfl, rfl, hs⟩

/-- No compiled query contradicts itself, whatever options or body it comes from. -/
theorem compiled_queries_consistent {q : ViewQuery} (h : q.Compiled) : q.Consistent := by
  cases h with
  | ofOptions h => exact consistent_of_viewQuery h
  | ofBody h => exact consistent_of_ofSearch h

/-- A level in a string groups and reduces rows although both are refused; a direction orders rows
although that is refused too. A bookmark takes the place of the documents skipped. -/
theorem compiled_queries_consistent_consulting :
    (∃ q : ViewQuery, Options.viewQuery (.ofList [
        ("descending", .decoded (.bool true)), ("group", .decoded (.bool false)),
        ("group_level", .decoded (.str "2")), ("key", .decoded .null),
        ("reduce", .decoded (.bool false)), ("sorted", .decoded (.bool false)),
        ("startkey", .encoded " null")]) "rows" = .ok q ∧
      q.group = true ∧ q.reduce = some true ∧ q.sorted = true ∧ 0 < q.reduceGroupLevel ∧
      q.paging.compareKey "null" " null" ≠ .lt) ∧
    ∃ (q : ViewQuery) (s : DocumentSearch), ViewQuery.ofSearch (.obj [
        ("bookmark", .str "YQ=="), ("selector", .obj []), ("skip", .num (.ofUInt64 3))]) = .ok q ∧
      q.search = some s ∧ s.bookmark = some "a" ∧ s.skip = 0 := by
  have hvalues : (Options.viewQuery (.ofList [
      ("descending", .decoded (.bool true)), ("group", .decoded (.bool false)),
      ("group_level", .decoded (.str "2")), ("key", .decoded .null),
      ("reduce", .decoded (.bool false)), ("sorted", .decoded (.bool false)),
      ("startkey", .encoded " null")]) "rows").toOption.map (fun q =>
        (q.groupLevel, q.key, q.paging.startKey, q.paging.descending)) =
      some (2, some "null", some " null", true) := by decide +kernel
  obtain ⟨grouped, hgrouped, hfields⟩ := Option.map_eq_some_iff.mp hvalues
  rw [toOption_eq_some_iff] at hgrouped
  obtain ⟨hlevel, hkey, hstart, hdescending⟩ : grouped.groupLevel = 2 ∧
      grouped.key = some "null" ∧ grouped.paging.startKey = some " null" ∧
        grouped.paging.descending = true := by simpa using hfields
  let search : DocumentSearch := ⟨.matchAll, -1, 0, [], some "a", []⟩
  let searching : ViewQuery :=
    { ViewQuery.ofView "_all_docs" with includeDocs := true, search := some search }
  have hsearching : ViewQuery.ofSearch (.obj [
      ("bookmark", .str "YQ=="), ("selector", .obj []), ("skip", .num (.ofUInt64 3))]) =
      .ok searching := rfl
  have hfirst := compiled_queries_consistent (.ofOptions hgrouped)
  have hsecond := compiled_queries_consistent (.ofBody hsearching)
  refine ⟨⟨grouped, hgrouped, ?_⟩, searching, search, hsearching, rfl, rfl, ?_⟩
  · have hpositive : 0 < grouped.groupLevel := by
      rw [hlevel]
      decide
    have hgroup := hfirst.grouped_of_level hpositive
    exact ⟨hgroup, hfirst.reduced_of_grouped hgroup, hfirst.sorted_of_descending hdescending,
      hfirst.level_positive.mpr ⟨hgroup, hpositive.ne'⟩, hfirst.key_not_before _ _ hkey hstart⟩
  · exact (hsecond.searches_documents search rfl).2.2.2.skip_of_bookmark
      (Option.some_ne_none _)

end ViewQuery

end DocQuery
