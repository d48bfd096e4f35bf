import DocQuery.Proofs.Collation.Value
import DocQuery.Proofs.Json.Decoded
import Mathlib.Data.List.Forall2
import Mathlib.Data.List.Nodup

/-!
# Equality in the order of values

Two values are equal in collation order exactly if they have the same structure and differ only in
how their numbers are represented. For objects this rests on the keys being distinct: then sorting
them by collation gives the same list of keys for any two objects with the same key set.
-/

namespace DocQuery

/-- Sameness of structure up to the representation of numbers: a number counts by the exact value
of its nearest binary64 number, an object by its key set and the values of its keys. -/
inductive Json.Alike : Json → Json → Prop
  | null : Alike .null .null
  | bool (b : Bool) : Alike (.bool b) (.bool b)
  | num {x y : Number} (units_eq : x.toBinary64.units = y.toBinary64.units) :
      Alike (.num x) (.num y)
  | str (s : String) : Alike (.str s) (.str s)
  | arr {as bs : List Json} (length_eq : as.length = bs.length)
      (items : ∀ i (ha : i < as.length) (hb : i < bs.length), Alike as[i] bs[i]) :
      Alike (.arr as) (.arr bs)
  | obj {as bs : List (String × Json)}
      (keys : ∀ key, key ∈ as.map Prod.fst ↔ key ∈ bs.map Prod.fst)
      (members : ∀ key a b, (key, a) ∈ as → (key, b) ∈ bs → Alike a b) :
      Alike (.obj as) (.obj bs)

namespace Collation

open Std

/-- Lists are equal in lexicographic order if their items are, one by one. -/
theorem compareLex_eq_eq_iff {α : Type} (cmp : α → α → Ordering) (as bs : List α) :
    List.compareLex cmp as bs = .eq ↔ List.Forall₂ (fun a b => cmp a b = .eq) as bs := by
  induction as generalizing bs with
  | nil => cases bs <;> simp [List.compareLex_nil_nil, List.compareLex_nil_cons]
  | cons a as ih =>
    cases bs with
    | nil => simp [List.compareLex_cons_nil]
    | cons b bs => simp [List.compareLex_cons_cons, Ordering.then_eq_eq, ih]

/-- Members are equal if they have one key and equal values. -/
theorem compareEntry_eq_eq_iff (order : Json → Json → Ordering) (a b : String × Json) :
    compareEntry order a b = .eq ↔ a.1 = b.1 ∧ order a.2 b.2 = .eq := by
  rw [compareEntry, Ordering.then_eq_eq, LawfulEqCmp.compare_eq_iff_eq]

private theorem exists_of_forall₂ {α : Type} {R : α → α → Prop} {as bs : List α}
    (h : List.Forall₂ R as bs) {a : α} (ha : a ∈ as) : ∃ b ∈ bs, R a b := by
  obtain ⟨i, hi, rfl⟩ := List.getElem_of_mem ha
  have hlt : i < bs.length := h.length_eq ▸ hi
  exact ⟨bs[i], List.getElem_mem hlt, h.get hi hlt⟩

private theorem forall₂_of_keys_eq {R : String × Json → String × Json → Prop}
    {as bs : List (String × Json)} (hkeys : as.map Prod.fst = bs.map Prod.fst)
    (h : ∀ a ∈ as, ∀ b ∈ bs, a.1 = b.1 → R a b) : List.Forall₂ R as bs := by
  have hlength : as.length = bs.length := by simpa using congrArg List.length hkeys
  rw [List.forall₂_iff_get]
  refine ⟨hlength, fun i hi hj => h _ (List.getElem_mem hi) _ (List.getElem_mem hj) ?_⟩
  have hget := List.getElem_of_eq hkeys (by simpa using hi)
  simpa only [List.getElem_map, List.get_eq_getElem] using hget

/-- Sorted members have the same keys. -/
theorem keys_sortMembers_perm (members : List (String × Json)) :
    ((sortMembers members).map Prod.fst).Perm (members.map Prod.fst) :=
  (List.mergeSort_perm members _).map Prod.fst

private theorem pairwise_keys_sortMembers (members : List (String × Json)) :
    ((sortMembers members).map Prod.fst).Pairwise fun j k => (compareText j k).isLE := by
  rw [List.pairwise_map]
  refine List.pairwise_mergeSort (fun _ _ _ => TransCmp.isLE_trans) (fun a b => ?_) members
  rw [compareText_swap b.1 a.1]
  cases compareText a.1 b.1 <;> rfl

/-- Distinct keys are sorted into one list, whatever order they come in. -/
theorem keys_sortMembers_eq {as bs : List (String × Json)} (ha : Entries.Sorted as)
    (hb : Entries.Sorted bs) (h : ∀ key, key ∈ as.map Prod.fst ↔ key ∈ bs.map Prod.fst) :
    (sortMembers as).map Prod.fst = (sortMembers bs).map Prod.fst := by
  have hperm : (as.map Prod.fst).Perm (bs.map Prod.fst) :=
    (List.perm_ext_iff_of_nodup ha.nodup_keys hb.nodup_keys).mpr h
  refine List.Perm.eq_of_pairwise (fun j k _ _ hjk hkj => ?_) (pairwise_keys_sortMembers as)
    (pairwise_keys_sortMembers bs)
    ((keys_sortMembers_perm as).trans (hperm.trans (keys_sortMembers_perm bs).symm))
  exact LawfulEqCmp.eq_of_compare (OrientedCmp.isLE_antisymm hjk hkj)

/-- One key has one value in an object. -/
private theorem entry_eq_of_key_eq {members : List (String × Json)}
    (h : Entries.Sorted members) {a b : String × Json} (ha : a ∈ members) (hb : b ∈ members)
    (hkey : a.1 = b.1) : a = b :=
  List.inj_on_of_nodup_map h.nodup_keys ha hb hkey

/-- Equal values have one structure. -/
theorem alike_of_compareValue_eq {a b : Json} (ha : a.WellFormed) (hb : b.WellFormed)
    (h : compareValue a b = .eq) : a.Alike b := by
  induction a using Json.inductionOn generalizing b with
  | null => cases b with
    | null => exact .null
    | _ => cases h
  | bool x => cases b with
    | bool y => exact LawfulEqOrd.eq_of_compare h ▸ .bool x
    | _ => cases h
  | num x => cases b with
    | num y => exact .num ((Binary64.cmp_eq_eq_iff _ _).mp h)
    | _ => cases h
  | str s => cases b with
    | str t =>
      have hst : compareText s t = .eq := h
      exact LawfulEqCmp.eq_of_compare hst ▸ .str s
    | _ => cases h
  | arr as ih => cases b with
    | arr bs =>
      rw [Json.wellFormed_arr] at ha hb
      rw [compareValue_arr, compareLex_eq_eq_iff] at h
      refine .arr h.length_eq fun i hi hj => ?_
      have has := List.getElem_mem hi
      exact ih _ has (ha _ has) (hb _ (List.getElem_mem hj)) (h.get hi hj)
    | _ => cases h
  | obj as ih => cases b with
    | obj bs =>
      rw [Json.wellFormed_obj] at ha hb
      rw [compareValue_obj, compareLex_eq_eq_iff] at h
      simp only [compareEntry_eq_eq_iff] at h
      have hkeys : (sortMembers as).map Prod.fst = (sortMembers bs).map Prod.fst := by
        rw [← List.forall₂_eq_eq_eq, List.forall₂_map_left_iff, List.forall₂_map_right_iff]
        exact h.imp fun _ _ => And.left
      refine .obj (fun key => ?_) fun key x y hx hy => ?_
      · rw [← (keys_sortMembers_perm as).mem_iff, hkeys, (keys_sortMembers_perm bs).mem_iff]
      · obtain ⟨z, hz, hkey, hxz⟩ := exists_of_forall₂ h (mem_sortMembers.mpr hx)
        have hzy : z = (key, y) := entry_eq_of_key_eq hb.1 (mem_sortMembers.mp hz) hy hkey.symm
        subst hzy
        exact ih _ hx (ha.2 _ hx) (hb.2 _ hy) hxz
    | _ => cases h

/-- Values of one structure are equal. -/
theorem compareValue_eq_of_alike {a b : Json} (ha : a.WellFormed) (hb : b.WellFormed)
    (h : a.Alike b) : compareValue a b = .eq := by
  induction h with
  | null => rfl
  | bool x => exact ReflOrd.compare_self
  | num units_eq => exact (Binary64.cmp_eq_eq_iff _ _).mpr units_eq
  | str s =>
    change compareText s s = .eq
    exact ReflCmp.compare_self
  | arr length_eq _ ih =>
    rw [Json.wellFormed_arr] at ha hb
    rw [compareValue_arr, compareLex_eq_eq_iff, List.forall₂_iff_get]
    exact ⟨length_eq, fun i hi hj =>
      ih i hi hj (ha _ (List.getElem_mem hi)) (hb _ (List.getElem_mem hj))⟩
  | obj keys _ ih =>
    rw [Json.wellFormed_obj] at ha hb
    rw [compareValue_obj, compareLex_eq_eq_iff]
    refine forall₂_of_keys_eq (keys_sortMembers_eq ha.1 hb.1 keys) fun x hx y hy hkey => ?_
    have hxa := mem_sortMembers.mp hx
    have hyb := mem_sortMembers.mp hy
    rw [compareEntry_eq_eq_iff]
    exact ⟨hkey, ih x.1 x.2 y.2 hxa (hkey ▸ hyb) (ha.2 _ hxa) (hb.2 _ hyb)⟩

/-- Collation is a total preorder of values, strict where a step is strict. The equal values, all
decoded ones being well formed, are those of one structure up to the representation of numbers.
Texts are ordered strictly, only identical ones being equal. -/
theorem compareValue_total_preorder :
    (∀ a b : Json, compareValue b a = (compareValue a b).swap) ∧
    (∀ a b c : Json, (compareValue a b).isLE → (compareValue b c).isLE →
      (compareValue a c).isLE ∧
        (compareValue a b = .lt ∨ compareValue b c = .lt → compareValue a c = .lt)) ∧
    (∀ a b : Json, a.WellFormed → b.WellFormed → (compareValue a b = .eq ↔ a.Alike b)) ∧
    (∀ (bytes : List UInt8) (a : Json), Json.decode bytes = .ok a → a.WellFormed) ∧
    (∀ s t : String, compareText t s = (compareText s t).swap) ∧
    (∀ s t u : String, compareText s t = .lt → compareText t u = .lt → compareText s u = .lt) ∧
    (∀ s t : String, compareText s t = .eq ↔ s = t) := by
  refine ⟨fun a b => OrientedCmp.eq_swap, fun a b c hab hbc => ⟨TransCmp.isLE_trans hab hbc, ?_⟩,
    fun a b ha hb => ⟨alike_of_compareValue_eq ha hb, compareValue_eq_of_alike ha hb⟩,
    fun _ _ => Json.wellFormed_of_decode, fun s t => OrientedCmp.eq_swap,
    fun s t u => TransCmp.lt_trans, fun s t => LawfulEqCmp.compare_eq_iff_eq⟩
  rintro (hlt | hlt)
  · exact TransCmp.lt_of_lt_of_isLE hlt hbc
  · exact TransCmp.lt_of_isLE_of_lt hab hlt

/-- An array with an integer zero is equal to the one with a negative zero, so a string that comes
before the one comes before the other. -/
theorem compareValue_array_of_zero :
    compareValue (.arr [.num (.ofUInt64 0)]) (.arr [.num (.float Binary64.zero.neg)]) = .eq ∧
      compareValue (.str "a") (.arr [.num (.float Binary64.zero.neg)]) = .lt := by
  obtain ⟨-, htrans, halike, -, -, -, -⟩ := compareValue_total_preorder
  have heq : compareValue (.arr [.num (.ofUInt64 0)])
      (.arr [.num (.float Binary64.zero.neg)]) = .eq := by
    refine (halike _ _ ?_ ?_).mpr (.arr rfl fun i hi _ => ?_)
    · simp only [Json.WellFormed, Json.WellFormedItems, and_true]
    · simp only [Json.WellFormed, Json.WellFormedItems, and_true]
    · obtain rfl : i = 0 := by simpa using hi
      exact .num (by decide)
  have hlt : compareValue (.str "a") (.arr [.num (.ofUInt64 0)]) = .lt := rfl
  exact ⟨heq, (htrans _ _ _ (by rw [hlt]; rfl) (by rw [heq]; rfl)).2 (.inl hlt)⟩

end Collation

end DocQuery
