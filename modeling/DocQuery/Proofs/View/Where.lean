import DocQuery.Proofs.Sql.Placeholders
import DocQuery.View.Where

/-!
# Restrictions of queries

Which rows the restrictions of a query admit, stated by the direction of iteration, and that their
texts can be read. The operators that bound a range are the table of four cases that its direction
and its end call for; elsewhere they are only met through what they admit.
-/

namespace DocQuery

open Sql (Column ColumnOrder Restriction Row)

/-- The order of two keys for rows in decreasing or increasing order. -/
def directed (descending : Bool) (order : Ordering) : Ordering :=
  if descending then order.swap else order

namespace Paging

/-- The start key admits what does not come before it. -/
theorem startComparison_holds (p : Paging) (order : Ordering) :
    p.startComparison.holds order = true ↔ directed p.descending order ≠ .lt := by
  unfold startComparison directed
  cases p.descending <;> cases order <;> decide

/-- The end key admits what does not come after it, and itself if it is included. -/
theorem endComparison_holds (p : Paging) (order : Ordering) :
    p.endComparison.holds order = true ↔
      directed p.descending order ≠ .gt ∧ (p.inclusiveEnd = false → order ≠ .eq) := by
  unfold endComparison directed
  cases p.descending <;> cases p.inclusiveEnd <;> cases order <;> decide

/-- A row satisfies the restrictions of a range if each end that is set admits its column. -/
theorem all_rangeRestrictions (p : Paging) (startColumn endColumn : Column)
    (order : ColumnOrder) (row : Row) :
    (p.rangeRestrictions startColumn endColumn).all (Restriction.holds order row) = true ↔
      (∀ first, p.startKey = some first →
        p.startComparison.holds (order startColumn (row startColumn) first) = true) ∧
      (∀ last, p.endKey = some last →
        p.endComparison.holds (order endColumn (row endColumn) last) = true) := by
  unfold rangeRestrictions
  rw [List.all_append, Bool.and_eq_true]
  cases p.startKey <;> cases p.endKey <;> simp [Restriction.holds]

end Paging

namespace ViewQuery

/-- A row satisfies the restrictions of the keys if it is equal to the key and to one of several
keys, as far as they are set. -/
theorem all_keyRestrictions (q : ViewQuery) (order : ColumnOrder) (row : Row) :
    q.keyRestrictions.all (Restriction.holds order row) = true ↔
      (∀ key, q.key = some key → order .key (row .key) key = .eq) ∧
      (q.keys ≠ [] → ∃ key ∈ q.keys, order .key (row .key) key = .eq) := by
  unfold keyRestrictions
  rw [List.all_append, Bool.and_eq_true]
  apply and_congr
  · cases q.key <;> simp [Restriction.holds, Comparison.holds]
  · cases q.keys <;> simp [Restriction.holds]

/-- A row satisfies the restrictions of reduced rows if each end that is set admits its column, and
both columns are equal to the key and to every one of several keys. -/
theorem all_reducedRestrictions (q : ViewQuery) (order : ColumnOrder) (row : Row) :
    q.reducedRestrictions.all (Restriction.holds order row) = true ↔
      (∀ first, q.paging.startKey = some first →
        q.paging.startComparison.holds (order .firstKey (row .firstKey) first) = true) ∧
      (∀ last, q.paging.endKey = some last →
        q.paging.endComparison.holds (order .lastKey (row .lastKey) last) = true) ∧
      (∀ key, q.key = some key ∨ key ∈ q.keys →
        order .firstKey (row .firstKey) key = .eq ∧ order .lastKey (row .lastKey) key = .eq) := by
  have hkeys : ((q.key.toList ++ q.keys).map fun key => Restriction.compare
      [.lastKey, .firstKey] .eq key).all (Restriction.holds order row) = true ↔
      ∀ key, q.key = some key ∨ key ∈ q.keys →
        order .firstKey (row .firstKey) key = .eq ∧ order .lastKey (row .lastKey) key = .eq := by
    rw [List.all_map, List.all_eq_true]
    refine forall_congr' fun key => ?_
    simp [Restriction.holds, Comparison.holds, and_comm]
  rw [reducedRestrictions, List.all_append, Bool.and_eq_true, Paging.all_rangeRestrictions, hkeys,
    and_assoc]

/-- Only the rows of built-in views are restricted to documents of a kind. -/
theorem documentRestrictions_of_not_isBuiltin {q : ViewQuery}
    (h : ViewName.isBuiltin q.view = false) : q.documentRestrictions = [] := by
  simp only [ViewName.isBuiltin, Bool.or_eq_false_iff, beq_eq_false_iff_ne] at h
  simp only [documentRestrictions, h.1.1, h.1.2, h.2, if_false]

/-- A document is bound if the key with it is. -/
theorem docIdRestrictions_eq (q : ViewQuery) :
    q.docIdRestrictions =
      ((q.paging.startKey.bind fun _ => q.startKeyDocId).map fun docId =>
        .compare [.docId] q.paging.startComparison docId).toList ++
      ((q.paging.endKey.bind fun _ => q.endKeyDocId).map fun docId =>
        .compare [.docId] q.paging.endComparison docId).toList := by
  unfold docIdRestrictions
  cases q.paging.startKey <;> cases q.startKeyDocId <;> cases q.paging.endKey <;>
    cases q.endKeyDocId <;> rfl

/-- A row satisfies the restrictions of documents if each end that is set with its key admits its
document. -/
theorem all_docIdRestrictions (q : ViewQuery) (order : ColumnOrder) (row : Row) :
    q.docIdRestrictions.all (Restriction.holds order row) = true ↔
      (∀ key first, q.paging.startKey = some key → q.startKeyDocId = some first →
        q.paging.startComparison.holds (order .docId (row .docId) first) = true) ∧
      (∀ key last, q.paging.endKey = some key → q.endKeyDocId = some last →
        q.paging.endComparison.holds (order .docId (row .docId) last) = true) := by
  rw [docIdRestrictions_eq, List.all_append, Bool.and_eq_true]
  apply and_congr
  · cases q.paging.startKey <;> cases q.startKeyDocId <;> simp [Restriction.holds]
  · cases q.paging.endKey <;> cases q.endKeyDocId <;> simp [Restriction.holds]

end ViewQuery

/-- A range of keys has plain restrictions. -/
theorem Paging.plain_of_mem_rangeRestrictions {p : Paging} {startColumn endColumn : Column}
    {r : Restriction} (h : r ∈ p.rangeRestrictions startColumn endColumn) : r.Plain := by
  simp only [rangeRestrictions, List.mem_append, Option.mem_toList, Option.map_eq_some_iff] at h
  obtain ⟨key, -, rfl⟩ | ⟨key, -, rfl⟩ := h <;> exact List.cons_ne_nil _ _

namespace ViewQuery

/-- The patterns of built-in views are plain. -/
theorem plain_of_mem_documentRestrictions {q : ViewQuery} {r : Restriction}
    (h : r ∈ q.documentRestrictions) : r.Plain := by
  unfold documentRestrictions at h
  split_ifs at h <;> simp only [List.mem_singleton, List.not_mem_nil] at h <;> subst h <;>
    (change '$' ∉ _; decide)

/-- The documents at the ends of a range have plain restrictions. -/
theorem plain_of_mem_docIdRestrictions {q : ViewQuery} {r : Restriction}
    (h : r ∈ q.docIdRestrictions) : r.Plain := by
  simp only [docIdRestrictions_eq, List.mem_append, Option.mem_toList,
    Option.map_eq_some_iff] at h
  obtain ⟨docId, -, rfl⟩ | ⟨docId, -, rfl⟩ := h <;> exact List.cons_ne_nil _ _

/-- Further keys have plain restrictions. -/
theorem plain_of_mem_keyRestrictions {q : ViewQuery} {r : Restriction}
    (h : r ∈ q.keyRestrictions) : r.Plain := by
  rcases List.mem_append.mp h with h | h
  · obtain ⟨key, -, rfl⟩ := Option.map_eq_some_iff.mp (Option.mem_toList.mp h)
    exact List.cons_ne_nil _ _
  · split at h
    · cases h
    · obtain rfl := List.mem_singleton.mp h
      trivial

/-- The restrictions of rows are plain. -/
theorem plain_of_mem_rowRestrictions {q : ViewQuery} {r : Restriction}
    (h : r ∈ q.rowRestrictions) : r.Plain := by
  simp only [rowRestrictions, List.mem_append] at h
  rcases h with ((h | h) | h) | h
  · exact plain_of_mem_documentRestrictions h
  · exact Paging.plain_of_mem_rangeRestrictions h
  · exact plain_of_mem_docIdRestrictions h
  · exact plain_of_mem_keyRestrictions h

/-- The restrictions of grouped rows are plain. -/
theorem plain_of_mem_groupRestrictions {q : ViewQuery} {r : Restriction}
    (h : r ∈ q.groupRestrictions) : r.Plain := by
  rcases List.mem_append.mp h with h | h
  · exact Paging.plain_of_mem_rangeRestrictions h
  · exact plain_of_mem_keyRestrictions h

/-- The restrictions of reduced rows are plain. -/
theorem plain_of_mem_reducedRestrictions {q : ViewQuery} {r : Restriction}
    (h : r ∈ q.reducedRestrictions) : r.Plain := by
  rcases List.mem_append.mp h with h | h
  · exact Paging.plain_of_mem_rangeRestrictions h
  · obtain ⟨key, -, rfl⟩ := List.mem_map.mp h
    exact List.cons_ne_nil _ _

end ViewQuery

end DocQuery
