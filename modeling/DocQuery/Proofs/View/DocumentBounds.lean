import DocQuery.Proofs.View.ReducedRows

/-!
# Rows between documents

A range of keys may name the documents where it starts and ends. The conditions of a query bound the
key and the document apart: a row is accepted if its key lies in the range and its document is not
before the first document nor after the last one, whatever its key is. So the documents break ties
at the start key, but they refuse rows inside of the range too.
-/

namespace DocQuery

open Sql (ColumnOrder Row accepts)

namespace Options

/-- Whether options ask for a document by its place in an order: it is not before the first document
nor after the last one in the direction of iteration, and differs from a last one that is excluded.
A document counts only if the key with it is given. -/
structure AsksForDocument (o : Options) (order : String → String → Ordering) (id : String) :
    Prop where
  notBefore : ∀ descending key first, o.descending = .ok descending →
    o.startKey = .ok (some key) → o.startKeyDocId = .ok (some first) →
    directed descending (order id first) ≠ .lt
  notAfter : ∀ descending key last, o.descending = .ok descending →
    o.endKey = .ok (some key) → o.endKeyDocId = .ok (some last) →
    directed descending (order id last) ≠ .gt
  notExcluded : ∀ key last, o.inclusiveEnd = .ok false →
    o.endKey = .ok (some key) → o.endKeyDocId = .ok (some last) → order id last ≠ .eq

/-- Whether a key is not before the start key and strictly before the end key, as far as they are
set, in the direction of iteration. -/
structure Reaches (o : Options) (k : String) : Prop where
  notBefore : ∀ descending first, o.descending = .ok descending → o.startKey = .ok (some first) →
    directed descending (Collation.compareKey k first) ≠ .lt
  beforeEnd : ∀ descending last, o.descending = .ok descending → o.endKey = .ok (some last) →
    directed descending (Collation.compareKey k last) = .lt

/-- The documents of a compiled query are what its options ask for. -/
theorem asksForDocument_iff {o : Options} {view : String} {q : ViewQuery} (h : o.Compiles view q)
    (order : String → String → Ordering) (id : String) :
    o.AsksForDocument order id ↔
      (∀ key first, q.paging.startKey = some key → q.startKeyDocId = some first →
        q.paging.startComparison.holds (order id first) = true) ∧
      (∀ key last, q.paging.endKey = some key → q.endKeyDocId = some last →
        q.paging.endComparison.holds (order id last) = true) := by
  simp only [Paging.startComparison_holds, Paging.endComparison_holds]
  constructor
  · intro ⟨hbefore, hafter, hexcluded⟩
    refine ⟨fun key first hkey hfirst => ?_, fun key last hkey hlast => ⟨?_, fun hinclusive => ?_⟩⟩
    · exact hbefore _ key first h.paging.descending (hkey ▸ h.paging.startKey)
        (hfirst ▸ h.startKeyDocId)
    · exact hafter _ key last h.paging.descending (hkey ▸ h.paging.endKey) (hlast ▸ h.endKeyDocId)
    · exact hexcluded key last (hinclusive ▸ h.paging.inclusiveEnd) (hkey ▸ h.paging.endKey)
        (hlast ▸ h.endKeyDocId)
  · intro ⟨hstart, hend⟩
    have hlast : ∀ key last, o.endKey = .ok (some key) → o.endKeyDocId = .ok (some last) → _ :=
      fun key last hkey hlast => hend key last (Except.ok.inj (h.paging.endKey.symm.trans hkey))
        (Except.ok.inj (h.endKeyDocId.symm.trans hlast))
    refine ⟨fun descending key first hd hkey hfirst => ?_,
      fun descending key last hd hkey hid => ?_, fun key last hinclusive hkey hid => ?_⟩
    · cases hd.symm.trans h.paging.descending
      exact hstart key first (Except.ok.inj (h.paging.startKey.symm.trans hkey))
        (Except.ok.inj (h.startKeyDocId.symm.trans hfirst))
    · cases hd.symm.trans h.paging.descending
      exact (hlast key last hkey hid).1
    · have hexclusive := Except.ok.inj (h.paging.inclusiveEnd.symm.trans hinclusive)
      exact (hlast key last hkey hid).2 hexclusive

/-- The conditions of the rows of a view that is not built in bound the key and the document, and
ask for the key and for one of several keys. -/
theorem accepts_rowRestrictions {order : ColumnOrder}
    (horder : order .key = Collation.compareKey) {o : Options} {view : String} {q : ViewQuery}
    (h : o.Compiles view q) (hview : ViewName.isBuiltin view = false) (bound : List String)
    (row : Row) :
    accepts order row q.rowRestrictions bound = true ↔
      (o.AsksFor (row .key) ∧ o.AsksForDocument (order .docId) (row .docId)) ∧
        (q.keys ≠ [] → ∃ key ∈ q.keys, Collation.compareKey (row .key) key = .eq) := by
  have hdocuments : q.documentRestrictions = [] :=
    ViewQuery.documentRestrictions_of_not_isBuiltin (h.view_eq ▸ hview)
  rw [Sql.accepts_eq fun r => ViewQuery.plain_of_mem_rowRestrictions, ViewQuery.rowRestrictions,
    hdocuments, List.nil_append, List.all_append, List.all_append, Bool.and_eq_true,
    Bool.and_eq_true, Paging.restrictions, Paging.all_rangeRestrictions,
    ViewQuery.all_docIdRestrictions, ViewQuery.all_keyRestrictions, asksFor_iff h,
    asksForDocument_iff h, horder]
  constructor
  · rintro ⟨⟨⟨hstart, hend⟩, hdocuments⟩, hkey, hlisted⟩
    exact ⟨⟨⟨hstart, hend, hkey⟩, hdocuments⟩, hlisted⟩
  · rintro ⟨⟨⟨hstart, hend, hkey⟩, hdocuments⟩, hlisted⟩
    exact ⟨⟨⟨hstart, hend⟩, hdocuments⟩, hkey, hlisted⟩

/-- Without a list of keys, the conditions of the rows of a view that is not built in accept a row
exactly if its key and its document are asked for. -/
theorem accepts_rowRestrictions_iff {order : ColumnOrder}
    (horder : order .key = Collation.compareKey) {o : Options} {view : String} {q : ViewQuery}
    (h : o.Compiles view q) (hview : ViewName.isBuiltin view = false) (hkeys : q.keys = [])
    (bound : List String) (row : Row) :
    accepts order row q.rowRestrictions bound = true ↔
      o.AsksFor (row .key) ∧ o.AsksForDocument (order .docId) (row .docId) := by
  rw [accepts_rowRestrictions horder h hview, and_iff_left fun hne => absurd hkeys hne]

/-- Without a key, options ask for every key that reaches into their range before its end. -/
theorem Reaches.asksFor {o : Options} {k : String} {descending : Bool} (h : o.Reaches k)
    (hdescending : o.descending = .ok descending) (hkey : o.key = .ok none) : o.AsksFor k := by
  refine ⟨h.notBefore, fun descending last hd hlast => ?_, fun last _ hlast heq => ?_,
    fun key hsome => ?_⟩
  · rw [h.beforeEnd descending last hd hlast]
    decide
  · have hbefore := h.beforeEnd descending last hdescending hlast
    rw [heq] at hbefore
    cases descending <;> cases hbefore
  · cases hkey.symm.trans hsome

/-- A row is accepted exactly if its key is asked for and its document is, each apart. So among the
rows that reach into the range before its end only the documents decide, whatever the keys are; and
if there is no last document, a row is accepted exactly if its document is not before the first
one. -/
theorem rows_of_document_bounds {order : ColumnOrder} (horder : order .key = Collation.compareKey)
    {o : Options} {view : String} {q : ViewQuery} (hcompiles : o.viewQuery view = .ok q)
    (hview : ViewName.isBuiltin view = false)
    (habsent : ∀ name ∈ ["key", "keys"], o.get? name = none) {first firstId : String}
    (hfirst : o.startKey = .ok (some first)) (hfirstId : o.startKeyDocId = .ok (some firstId))
    (bound : List String) (row : Row) :
    (accepts order row q.rowRestrictions bound = true ↔
      o.AsksFor (row .key) ∧ o.AsksForDocument (order .docId) (row .docId)) ∧
    (o.Reaches (row .key) →
      (accepts order row q.rowRestrictions bound = true ↔
        o.AsksForDocument (order .docId) (row .docId))) ∧
    (o.Reaches (row .key) → o.endKey = .ok none ∨ o.endKeyDocId = .ok none →
      ∀ descending, o.descending = .ok descending →
        (accepts order row q.rowRestrictions bound = true ↔
          directed descending (order .docId (row .docId) firstId) ≠ .lt)) := by
  have h := viewQuery_eq_ok_iff.mp hcompiles
  obtain ⟨hkey, hkeys⟩ := keys_of_absent h habsent
  have hrow := accepts_rowRestrictions_iff horder h hview hkeys bound row
  have hreaches : o.Reaches (row .key) →
      (accepts order row q.rowRestrictions bound = true ↔
        o.AsksForDocument (order .docId) (row .docId)) := fun hr =>
    hrow.trans (and_iff_right (hr.asksFor h.paging.descending (hkey ▸ h.key)))
  refine ⟨hrow, hreaches, fun hr hnone descending hd => (hreaches hr).trans ?_⟩
  constructor
  · intro hasks
    exact hasks.notBefore descending first firstId hd hfirst hfirstId
  · intro hbefore
    have hunbound : ∀ key last, o.endKey = .ok (some key) → o.endKeyDocId = .ok (some last) →
        False := by
      rintro key last hend hid
      rcases hnone with hnone | hnone
      · cases hnone.symm.trans hend
      · cases hnone.symm.trans hid
    refine ⟨fun other key id hother _ hid => ?_, fun _ key last _ hend hid => ?_,
      fun key last _ hend hid => ?_⟩
    · cases hd.symm.trans hother
      cases hfirstId.symm.trans hid
      exact hbefore
    · exact (hunbound key last hend hid).elim
    · exact (hunbound key last hend hid).elim

/-- In decreasing order from the key five and document m on, a row with the key four is accepted if
it is of document c and refused if it is of document n. -/
theorem rows_of_document_bounds_decreasing :
    let order : ColumnOrder := fun | .docId => Collation.compareText | _ => Collation.compareKey
    let row (id : String) : Row := fun | .docId => id | _ => "4"
    ∃ q : ViewQuery, viewQuery (.ofList [("descending", .decoded (.bool true)),
        ("startkey", .decoded (.num (.ofUInt64 5))), ("startkey_docid", .decoded (.str "m"))])
        "rows" = .ok q ∧
      accepts order (row "c") q.rowRestrictions ["other"] = true ∧
      accepts order (row "n") q.rowRestrictions ["other"] = false := by
  intro order row
  let q : ViewQuery :=
    { ViewQuery.ofView "rows" with
      paging := { Paging.everything with descending := true, startKey := some "5" }
      startKeyDocId := some "m" }
  have hcompiles : viewQuery (.ofList [("descending", .decoded (.bool true)),
      ("startkey", .decoded (.num (.ofUInt64 5))), ("startkey_docid", .decoded (.str "m"))])
      "rows" = .ok q := rfl
  have horder : order .key = Collation.compareKey := rfl
  have h := viewQuery_eq_ok_iff.mp hcompiles
  have hreaches : Reaches (.ofList [("descending", .decoded (.bool true)),
      ("startkey", .decoded (.num (.ofUInt64 5))), ("startkey_docid", .decoded (.str "m"))])
      "4" := by
    refine ⟨fun descending first hd hfirst => ?_, fun descending last _ hlast => ?_⟩
    · cases hd.symm.trans h.paging.descending
      cases hfirst.symm.trans h.paging.startKey
      decide +kernel
    · cases hlast.symm.trans h.paging.endKey
  have hmeaning (id : String) : accepts order (row id) q.rowRestrictions ["other"] = true ↔
      directed true (Collation.compareText id "m") ≠ .lt :=
    (rows_of_document_bounds horder hcompiles (by decide) (by decide) h.paging.startKey
      h.startKeyDocId ["other"] (row id)).2.2 hreaches (.inl h.paging.endKey) true
      h.paging.descending
  refine ⟨q, hcompiles, (hmeaning "c").mpr (by decide +kernel), ?_⟩
  rw [← Bool.not_eq_true, hmeaning]
  decide +kernel

/-- From the key one and document m on, a row of document a with the key two is refused, though its
key lies strictly inside of the range and documents are in a total order. -/
theorem row_inside_range_refused_for_document :
    let order : ColumnOrder := fun | .docId => Collation.compareText | _ => Collation.compareKey
    let row : Row := fun | .docId => "a" | _ => "2"
    Std.TransCmp (order .docId) ∧ Std.LawfulEqCmp (order .docId) ∧
    ∃ q : ViewQuery, viewQuery (.ofList [("startkey", .decoded (.num (.ofUInt64 1))),
        ("startkey_docid", .decoded (.str "m"))]) "rows" = .ok q ∧
      q.paging.descending = false ∧ q.paging.endKey = none ∧
      Collation.compareKey "1" (row .key) = .lt ∧
      accepts order row q.rowRestrictions [] = false := by
  intro order row
  let q : ViewQuery :=
    { ViewQuery.ofView "rows" with
      paging := { Paging.everything with startKey := some "1" }, startKeyDocId := some "m" }
  have hcompiles : viewQuery (.ofList [("startkey", .decoded (.num (.ofUInt64 1))),
      ("startkey_docid", .decoded (.str "m"))]) "rows" = .ok q := rfl
  exact ⟨inferInstanceAs (Std.TransCmp Collation.compareText),
    inferInstanceAs (Std.LawfulEqCmp Collation.compareText), q, hcompiles, rfl, rfl,
    by decide +kernel, by decide +kernel⟩

end Options

end DocQuery
