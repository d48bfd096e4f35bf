import DocQuery.Proofs.View.DocumentBounds

/-!
# Lists of keys

The keys of the rows are listed in an array, which is given decoded or as text. A list comes without
any other bound, so a row is accepted exactly if its key is equal to one of those listed. A query
does not tell an array without items from none: no key is listed then, and the rows are those that
the other options ask for.
-/

namespace DocQuery

open Sql (ColumnOrder Row accepts)

namespace Options

/-- The list of keys of an option that is there. -/
theorem keys_of_get? {o : Options} {param : Param} (h : o.get? "keys" = some param) :
    o.keys = readKeys param := read_of_get? h [] _

/-- A compiled query with a list of keys has no other bounds, so that its options ask for every key
and every document. -/
theorem asksFor_of_keys {o : Options} {view : String} {q : ViewQuery}
    (hcompiles : o.viewQuery view = .ok q) (hne : q.keys ≠ []) (k : String)
    (order : String → String → Ordering) (id : String) :
    o.AsksFor k ∧ o.AsksForDocument order id := by
  have h := viewQuery_eq_ok_iff.mp hcompiles
  obtain ⟨hkey, hstart, hend⟩ := (ViewQuery.Compiled.ofOptions hcompiles).keys_alone hne
  rw [asksFor_iff h, asksForDocument_iff h, hkey, hstart, hend]
  exact ⟨⟨nofun, nofun, nofun⟩, nofun, nofun⟩

/-- With keys listed, the rows of a view that is not built in are accepted exactly if their key is
equal to the text of an item, whatever is bound before and whichever documents are named. An array
without items is no list of keys, and the rows are those that the other options ask for. -/
theorem rows_of_keys {order : ColumnOrder} (horder : order .key = Collation.compareKey)
    {o : Options} {view : String} {q : ViewQuery} {param : Param}
    (hkeys : o.get? "keys" = some param) (hcompiles : o.viewQuery view = .ok q)
    (hview : ViewName.isBuiltin view = false) :
    ∃ items, param.decode = .ok (.arr items) ∧
      (items ≠ [] → ∀ bound row, accepts order row q.rowRestrictions bound = true ↔
        ∃ item ∈ items, Collation.compareKey (row .key) item.text = .eq) ∧
      (items = [] → ∀ bound row, accepts order row q.rowRestrictions bound = true ↔
        o.AsksFor (row .key) ∧ o.AsksForDocument (order .docId) (row .docId)) := by
  have h := viewQuery_eq_ok_iff.mp hcompiles
  have hread : readKeys param = .ok q.keys := keys_of_get? hkeys ▸ h.keys
  obtain ⟨items, hdecode, htexts⟩ := readKeys_eq_ok_iff.mp hread
  refine ⟨items, hdecode, fun hne bound row => ?_, fun hnil bound row => ?_⟩
  · have hlisted : q.keys ≠ [] := by
      rw [← htexts]
      exact fun hnil => hne (List.map_eq_nil_iff.mp hnil)
    rw [accepts_rowRestrictions horder h hview,
      and_iff_right (asksFor_of_keys hcompiles hlisted _ _ _), forall_prop_of_true hlisted,
      ← htexts]
    simp only [List.mem_map, exists_exists_and_eq_and]
  · have hnone : q.keys = [] := by rw [← htexts, hnil, List.map_nil]
    exact accepts_rowRestrictions_iff horder h hview hnone bound row

/-- Of the keys in a text with an integer twice and a string, a row may have the integer with a
fraction of zero, and not another integer. -/
theorem rows_of_keys_text :
    let order : ColumnOrder := fun | .docId => Collation.compareText | _ => Collation.compareKey
    let row (key : String) : Row := fun | .docId => "d" | _ => key
    ∃ q : ViewQuery, viewQuery (.ofList [("keys", .encoded " [1, \"a\",1]")]) "rows" = .ok q ∧
      accepts order (row "1.0") q.rowRestrictions ["other"] = true ∧
      accepts order (row "2") q.rowRestrictions ["other"] = false := by
  intro order row
  let param : Param := .encoded " [1, \"a\",1]"
  let lists (key : String) (value : Json) : Bool := value.asItems.toOption.any fun items =>
    items.any fun item => Collation.compareKey key item.text == .eq
  have hlists : param.decode.toOption.map (lists "1.0") = some true := by decide +kernel
  have hunlisted : param.decode.toOption.map (lists "2") = some false := by decide +kernel
  have horder : order .key = Collation.compareKey := rfl
  obtain ⟨q, hcompiles⟩ : ∃ q, viewQuery (.ofList [("keys", param)]) "rows" = .ok q :=
    exists_eq_ok (by decide +kernel)
  obtain ⟨items, hdecode, haccepts, -⟩ := rows_of_keys horder rfl hcompiles (by decide)
  rw [hdecode] at hlists hunlisted
  obtain ⟨item, hitem, hequal⟩ := List.any_eq_true.mp (Option.some.inj hlists)
  have hmeaning (key : String) := haccepts (List.ne_nil_of_mem hitem) ["other"] (row key)
  refine ⟨q, hcompiles, (hmeaning "1.0").mpr ⟨item, hitem, beq_iff_eq.mp hequal⟩, ?_⟩
  rw [← Bool.not_eq_true, hmeaning]
  rintro ⟨other, hother, hequal⟩
  exact List.any_eq_false.mp (Option.some.inj hunlisted) other hother (beq_iff_eq.mpr hequal)

/-- With an array without items, every row is accepted although its key is equal to no item. -/
theorem row_accepted_for_no_keys :
    let order : ColumnOrder := fun | .docId => Collation.compareText | _ => Collation.compareKey
    let row : Row := fun | .docId => "d" | _ => "1"
    let param : Param := .decoded (.arr [])
    ∃ q : ViewQuery, viewQuery (.ofList [("keys", param)]) "rows" = .ok q ∧
      param.decode = .ok (.arr []) ∧
      (¬ ∃ item ∈ ([] : List Json), Collation.compareKey (row .key) item.text = .eq) ∧
      accepts order row q.rowRestrictions [] = true := by
  intro order row param
  exact ⟨ViewQuery.ofView "rows", rfl, rfl, by simp, by decide +kernel⟩

end Options

end DocQuery
