import DocQuery.Proofs.Options.Reading
import DocQuery.Proofs.Steps
import DocQuery.View.Compile

/-!
# Queries that compile

A query compiles from options exactly if every option can be read, a built-in view is not grouped
and the keys do not exclude each other. What later modules use of compilation is stated here, as
the values of the fields of the query.
-/

namespace DocQuery

namespace Options

/-- What a range of keys is read from. -/
structure ReadsPaging (o : Options) (p : Paging) : Prop where
  limit : o.limit = .ok p.limit
  skip : o.skip = .ok p.skip
  descending : o.descending = .ok p.descending
  startKey : o.startKey = .ok p.startKey
  endKey : o.endKey = .ok p.endKey
  inclusiveEnd : o.inclusiveEnd = .ok p.inclusiveEnd

/-- Paging is read exactly if its options are. -/
theorem paging_eq_ok_iff {o : Options} {p : Paging} : o.paging = .ok p ↔ o.ReadsPaging p := by
  constructor
  · intro h
    obtain ⟨limit, hlimit, h⟩ := bind_eq_ok_iff.mp h
    obtain ⟨skip, hskip, h⟩ := bind_eq_ok_iff.mp h
    obtain ⟨descending, hdescending, h⟩ := bind_eq_ok_iff.mp h
    obtain ⟨startKey, hstartKey, h⟩ := bind_eq_ok_iff.mp h
    obtain ⟨endKey, hendKey, h⟩ := bind_eq_ok_iff.mp h
    obtain ⟨inclusiveEnd, hinclusiveEnd, h⟩ := bind_eq_ok_iff.mp h
    cases h
    exact ⟨hlimit, hskip, hdescending, hstartKey, hendKey, hinclusiveEnd⟩
  · intro h
    rw [paging, h.limit, h.skip, h.descending, h.startKey, h.endKey, h.inclusiveEnd]
    rfl

/-- The check that a built-in view is not grouped. -/
def checkGrouping (view : String) (group : Bool) (groupLevel : Nat) : Except OptionError Unit :=
  if ViewName.isBuiltin view then
    if 0 < groupLevel then .error (.inconsistent .groupLevel)
    else if group then .error (.inconsistent .group)
    else .ok ()
  else .ok ()

/-- Built-in views are not grouped. -/
theorem checkGrouping_eq_ok_iff {view : String} {group : Bool} {groupLevel : Nat} :
    checkGrouping view group groupLevel = .ok () ↔
      (ViewName.isBuiltin view = true → groupLevel = 0 ∧ group = false) := by
  unfold checkGrouping
  cases ViewName.isBuiltin view <;> cases group <;> cases groupLevel <;> simp

/-- The query that options stand for, before its keys are checked. -/
def assembleQuery (o : Options) (view : String) : Except OptionError ViewQuery := do
  let paging ← o.paging
  let reduce ← o.reduce
  let group ← o.group
  let groupLevel ← o.groupLevel
  checkGrouping view group groupLevel
  let includeDocs ← o.includeDocs
  let conflicts ← o.conflicts
  let attachments ← o.attachments
  let update ← o.update
  let updateSeq ← o.updateSeq
  let endKeyDocId ← o.endKeyDocId
  let startKeyDocId ← o.startKeyDocId
  let key ← o.key
  let keys ← o.keys
  let sorted ← o.sorted
  let attEncodingInfo ← o.attEncodingInfo
  return {
    paging, view, includeDocs, conflicts, reduce, group, groupLevel, attachments, update,
    updateSeq, endKeyDocId, startKeyDocId, key, keys, sorted, attEncodingInfo, search := none }

/-- The check of the keys is the last step of compilation. -/
theorem viewQuery_eq (o : Options) (view : String) :
    o.viewQuery view = o.assembleQuery view >>= fun q => q.validate >>= fun _ => pure q := by
  simp only [viewQuery, assembleQuery, bind_assoc, pure_bind]
  congr
  funext paging
  congr
  funext reduce
  congr
  funext group
  congr
  funext groupLevel
  unfold checkGrouping
  cases ViewName.isBuiltin view <;> cases group <;> cases groupLevel <;> rfl

/-- What a query is assembled from. -/
structure Assembles (o : Options) (view : String) (q : ViewQuery) : Prop where
  paging : o.ReadsPaging q.paging
  view_eq : q.view = view
  reduce : o.reduce = .ok q.reduce
  group : o.group = .ok q.group
  groupLevel : o.groupLevel = .ok q.groupLevel
  notGrouped : ViewName.isBuiltin view = true → q.groupLevel = 0 ∧ q.group = false
  includeDocs : o.includeDocs = .ok q.includeDocs
  conflicts : o.conflicts = .ok q.conflicts
  attachments : o.attachments = .ok q.attachments
  update : o.update = .ok q.update
  updateSeq : o.updateSeq = .ok q.updateSeq
  endKeyDocId : o.endKeyDocId = .ok q.endKeyDocId
  startKeyDocId : o.startKeyDocId = .ok q.startKeyDocId
  key : o.key = .ok q.key
  keys : o.keys = .ok q.keys
  sorted : o.sorted = .ok q.sorted
  attEncodingInfo : o.attEncodingInfo = .ok q.attEncodingInfo
  search : q.search = none

/-- A query is assembled exactly if its options are read, and are those of the query. -/
theorem assembleQuery_eq_ok_iff {o : Options} {view : String} {q : ViewQuery} :
    o.assembleQuery view = .ok q ↔ o.Assembles view q := by
  constructor
  · intro h
    obtain ⟨paging, hpaging, h⟩ := bind_eq_ok_iff.mp h
    obtain ⟨reduce, hreduce, h⟩ := bind_eq_ok_iff.mp h
    obtain ⟨group, hgroup, h⟩ := bind_eq_ok_iff.mp h
    obtain ⟨groupLevel, hgroupLevel, h⟩ := bind_eq_ok_iff.mp h
    obtain ⟨_, hnotGrouped, h⟩ := bind_eq_ok_iff.mp h
    obtain ⟨includeDocs, hincludeDocs, h⟩ := bind_eq_ok_iff.mp h
    obtain ⟨conflicts, hconflicts, h⟩ := bind_eq_ok_iff.mp h
    obtain ⟨attachments, hattachments, h⟩ := bind_eq_ok_iff.mp h
    obtain ⟨update, hupdate, h⟩ := bind_eq_ok_iff.mp h
    obtain ⟨updateSeq, hupdateSeq, h⟩ := bind_eq_ok_iff.mp h
    obtain ⟨endKeyDocId, hendKeyDocId, h⟩ := bind_eq_ok_iff.mp h
    obtain ⟨startKeyDocId, hstartKeyDocId, h⟩ := bind_eq_ok_iff.mp h
    obtain ⟨key, hkey, h⟩ := bind_eq_ok_iff.mp h
    obtain ⟨keys, hkeys, h⟩ := bind_eq_ok_iff.mp h
    obtain ⟨sorted, hsorted, h⟩ := bind_eq_ok_iff.mp h
    obtain ⟨attEncodingInfo, hattEncodingInfo, h⟩ := bind_eq_ok_iff.mp h
    cases h
    exact ⟨paging_eq_ok_iff.mp hpaging, rfl, hreduce, hgroup, hgroupLevel,
      checkGrouping_eq_ok_iff.mp hnotGrouped, hincludeDocs, hconflicts, hattachments, hupdate,
      hupdateSeq, hendKeyDocId, hstartKeyDocId, hkey, hkeys, hsorted, hattEncodingInfo, rfl⟩
  · intro h
    obtain ⟨paging, _, includeDocs, conflicts, reduce, group, groupLevel, attachments, update,
      updateSeq, endKeyDocId, startKeyDocId, key, keys, sorted, attEncodingInfo, _⟩ := q
    obtain rfl := h.view_eq
    obtain rfl := h.search
    rw [assembleQuery, paging_eq_ok_iff.mpr h.paging, h.reduce, h.group, h.groupLevel]
    change (checkGrouping _ group groupLevel >>= fun _ => _) = _
    rw [checkGrouping_eq_ok_iff.mpr h.notGrouped, h.includeDocs, h.conflicts, h.attachments,
      h.update, h.updateSeq, h.endKeyDocId, h.startKeyDocId, h.key, h.keys, h.sorted,
      h.attEncodingInfo]
    rfl

/-- What a compiled query is made of. -/
structure Compiles (o : Options) (view : String) (q : ViewQuery) : Prop
    extends o.Assembles view q where
  validate : q.validate = .ok ()

/-- A query compiles exactly if it is assembled and its keys pass the check. -/
theorem viewQuery_eq_ok_iff {o : Options} {view : String} {q : ViewQuery} :
    o.viewQuery view = .ok q ↔ o.Compiles view q := by
  rw [viewQuery_eq, bind_eq_ok_iff]
  constructor
  · rintro ⟨q, hq, h⟩
    obtain ⟨_, hvalidate, h⟩ := bind_eq_ok_iff.mp h
    cases h
    exact ⟨assembleQuery_eq_ok_iff.mp hq, hvalidate⟩
  · intro h
    exact ⟨q, assembleQuery_eq_ok_iff.mpr h.toAssembles,
      bind_eq_ok_iff.mpr ⟨(), h.validate, rfl⟩⟩

end Options

end DocQuery
