import DocQuery.Proofs.Sql.Reading
import DocQuery.Proofs.View.Compile
import DocQuery.Proofs.View.Where

/-!
# Rows of a range of keys

The rows that the conditions of a query accept are those that its options ask for: options state a
range by the direction of iteration, conditions by the operators and values in their texts.
-/

namespace DocQuery

open Sql (ColumnOrder Predicate Restriction Row accepts)

namespace Options

/-- Whether options ask for a key: it is not before the start key nor after the end key in the
direction of iteration, differs from an end key that is excluded, and is equal to the key. -/
structure AsksFor (o : Options) (k : String) : Prop where
  notBefore : ∀ descending first, o.descending = .ok descending → o.startKey = .ok (some first) →
    directed descending (Collation.compareKey k first) ≠ .lt
  notAfter : ∀ descending last, o.descending = .ok descending → o.endKey = .ok (some last) →
    directed descending (Collation.compareKey k last) ≠ .gt
  notExcluded : ∀ last, o.inclusiveEnd = .ok false → o.endKey = .ok (some last) →
    Collation.compareKey k last ≠ .eq
  equal : ∀ key, o.key = .ok (some key) → Collation.compareKey k key = .eq

/-- The key range of a compiled query is what its options ask for. -/
theorem asksFor_iff {o : Options} {view : String} {q : ViewQuery} (h : o.Compiles view q)
    (k : String) :
    o.AsksFor k ↔
      (∀ first, q.paging.startKey = some first →
        q.paging.startComparison.holds (Collation.compareKey k first) = true) ∧
      (∀ last, q.paging.endKey = some last →
        q.paging.endComparison.holds (Collation.compareKey k last) = true) ∧
      (∀ key, q.key = some key → Collation.compareKey k key = .eq) := by
  simp only [Paging.startComparison_holds, Paging.endComparison_holds]
  constructor
  · intro ⟨hbefore, hafter, hexcluded, hequal⟩
    refine ⟨fun first hfirst => ?_, fun last hlast => ⟨?_, fun hinclusive => ?_⟩,
      fun key hkey => ?_⟩
    · exact hbefore _ first h.paging.descending (hfirst ▸ h.paging.startKey)
    · exact hafter _ last h.paging.descending (hlast ▸ h.paging.endKey)
    · exact hexcluded last (hinclusive ▸ h.paging.inclusiveEnd) (hlast ▸ h.paging.endKey)
    · exact hequal key (hkey ▸ h.key)
  · intro ⟨hstart, hend, hequal⟩
    refine ⟨fun descending first hd hfirst => ?_, fun descending last hd hlast => ?_,
      fun last hi hlast => ?_, fun key hkey => ?_⟩
    · cases hd.symm.trans h.paging.descending
      exact hstart first (Except.ok.inj (h.paging.startKey.symm.trans hfirst))
    · cases hd.symm.trans h.paging.descending
      exact (hend last (Except.ok.inj (h.paging.endKey.symm.trans hlast))).1
    · exact (hend last (Except.ok.inj (h.paging.endKey.symm.trans hlast))).2
        (Except.ok.inj (h.paging.inclusiveEnd.symm.trans hi))
    · exact hequal key (Except.ok.inj (h.key.symm.trans hkey))

end Options

end DocQuery
