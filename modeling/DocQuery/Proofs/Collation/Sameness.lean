import DocQuery.Proofs.Collation.Equality

/-!
# The same values in the order of values

Values that are the same, that is equal but for the sign of a zero, are equal in collation order,
so nothing that is decided by collation tells them apart.
-/

namespace DocQuery

namespace Json

/-- Arrays are the same exactly if their items are, place by place. -/
theorem sameItems_iff (as bs : List Json) :
    sameItems as bs = true ↔ List.Forall₂ (fun a b => a.same b = true) as bs := by
  induction as generalizing bs with
  | nil => cases bs <;> simp [sameItems]
  | cons a as ih => cases bs <;> simp [sameItems, ih]

/-- Objects are the same exactly if their members are, place by place. -/
theorem sameMembers_iff (as bs : List (String × Json)) :
    sameMembers as bs = true ↔
      List.Forall₂ (fun a b => a.1 = b.1 ∧ a.2.same b.2 = true) as bs := by
  induction as generalizing bs with
  | nil => cases bs <;> simp [sameMembers]
  | cons a as ih => cases bs <;> simp [sameMembers, ih]

/-- Every value is the same as itself. -/
theorem same_self (value : Json) : value.same value = true := by
  induction value using inductionOn with
  | null => rfl
  | bool b => exact beq_self_eq_true b
  | num n => cases n <;> exact beq_self_eq_true _
  | str s => exact beq_self_eq_true s
  | arr items ih =>
    rw [same, sameItems_iff, List.forall₂_same]
    exact ih
  | obj members ih =>
    rw [same, sameMembers_iff, List.forall₂_same]
    exact fun entry hentry => ⟨rfl, ih entry hentry⟩

end Json

/-- The same numbers have one value. -/
theorem Number.units_eq_of_same {x y : Number} (h : x.same y = true) :
    x.toBinary64.units = y.toBinary64.units := by
  cases x <;> cases y <;> simp_all [Number.same, Number.toBinary64]

/-- Lists that are related item by item stay so when both are sorted, if the order does not tell
related items apart. -/
theorem forall₂_mergeSort {α : Type} {R : α → α → Prop} {le : α → α → Bool}
    (hle : ∀ a a' b b', R a a' → R b b' → le a b = le a' b') {as bs : List α}
    (h : List.Forall₂ R as bs) : List.Forall₂ R (as.mergeSort le) (bs.mergeSort le) := by
  -- The pairs of related items are sorted once.
  have hpairs : ∀ pair ∈ as.zip bs, R pair.1 pair.2 := fun _ hpair => List.forall₂_zip h hpair
  have hfst : ((as.zip bs).mergeSort fun p q => le p.1 q.1).map Prod.fst = as.mergeSort le := by
    rw [List.map_mergeSort (s := le) fun _ _ _ _ => rfl, List.map_fst_zip h.length_eq.le]
  have hsnd : ((as.zip bs).mergeSort fun p q => le p.1 q.1).map Prod.snd = bs.mergeSort le := by
    rw [List.map_mergeSort (s := le) fun p hp q hq =>
      hle _ _ _ _ (hpairs p hp) (hpairs q hq), List.map_snd_zip h.length_eq.ge]
  rw [← hfst, ← hsnd, List.forall₂_map_left_iff, List.forall₂_map_right_iff, List.forall₂_same]
  exact fun pair hpair => hpairs pair (List.mem_mergeSort.mp hpair)

namespace Collation

/-- The same values are equal in collation order. -/
theorem compareValue_eq_of_same {x y : Json} (h : x.same y = true) : compareValue x y = .eq := by
  induction x using Json.inductionOn generalizing y with
  | null => cases y with
    | null => rfl
    | _ => cases h
  | bool a => cases y with
    | bool b =>
      rw [Json.same, beq_iff_eq] at h
      exact h ▸ Std.ReflCmp.compare_self
    | _ => cases h
  | num m => cases y with
    | num n => exact (Binary64.cmp_eq_eq_iff _ _).mpr (Number.units_eq_of_same h)
    | _ => cases h
  | str s => cases y with
    | str t =>
      rw [Json.same, beq_iff_eq] at h
      exact h ▸ Std.ReflCmp.compare_self
    | _ => cases h
  | arr as ih => cases y with
    | arr bs =>
      rw [Json.same, Json.sameItems_iff] at h
      rw [compareValue_arr, compareLex_eq_eq_iff]
      exact ((List.forall₂_and_left _ _).mpr ⟨fun item hitem => @ih item hitem, h⟩).imp
        fun _ _ hab => hab.1 hab.2
    | _ => cases h
  | obj as ih => cases y with
    | obj bs =>
      rw [Json.same, Json.sameMembers_iff] at h
      rw [compareValue_obj, compareLex_eq_eq_iff]
      have hequal : List.Forall₂ (fun a b => compareEntry compareValue a b = .eq) as bs :=
        ((List.forall₂_and_left _ _).mpr ⟨fun entry hentry => @ih entry hentry, h⟩).imp
          fun _ _ hab => (compareEntry_eq_eq_iff _ _ _).mpr ⟨hab.2.1, hab.1 hab.2.2⟩
      refine forall₂_mergeSort (fun a a' b b' ha hb => ?_) hequal
      rw [((compareEntry_eq_eq_iff _ _ _).mp ha).1, ((compareEntry_eq_eq_iff _ _ _).mp hb).1]
    | _ => cases h

end Collation

end DocQuery
