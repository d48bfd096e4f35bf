import DocQuery.Proofs.Collation.Key
import Mathlib.Data.List.Forall2

/-!
# Sorted keys

Keys are sorted by a total preorder, and equal ones keep their order. So sorting permuted keys gives
keys that are equal place by place: what a place holds is decided by how many keys come before it,
whatever order they are given in.
-/

namespace DocQuery.Collation

open Std

section Sorting

variable {α : Type} {cmp : α → α → Ordering} [TransCmp cmp]

private theorem isLE_or_isLE (a b : α) : ((cmp a b).isLE || (cmp b a).isLE) = true := by
  have hswap : cmp b a = (cmp a b).swap := OrientedCmp.eq_swap
  rw [hswap]
  cases cmp a b <;> rfl

/-- A sorted list is in order. -/
theorem pairwise_sorted (list : List α) :
    (list.mergeSort fun a b => (cmp a b).isLE).Pairwise fun a b => cmp a b ≠ .gt :=
  (List.pairwise_mergeSort (fun _ _ _ => TransCmp.isLE_trans) isLE_or_isLE list).imp
    fun h => Ordering.ne_gt_iff_isLE.mpr h

/-- Sorting a list keeps the order of elements among which none comes before another. -/
theorem filter_sorted {p : α → Bool} (hp : ∀ a b, p a = true → p b = true → cmp a b ≠ .gt)
    (list : List α) :
    (list.mergeSort fun a b => (cmp a b).isLE).filter p = list.filter p := by
  have hpairs : (list.filter p).Pairwise fun a b => (cmp a b).isLE := by
    rw [List.pairwise_filter]
    exact List.pairwise_of_forall fun a b ha hb => Ordering.ne_gt_iff_isLE.mp (hp a b ha hb)
  have hsub : (list.filter p).Sublist (list.mergeSort fun a b => (cmp a b).isLE) :=
    List.sublist_mergeSort (fun _ _ _ => TransCmp.isLE_trans) isLE_or_isLE hpairs
      List.filter_sublist
  have hkept := hsub.filter p
  rw [List.filter_filter] at hkept
  simp only [Bool.and_self] at hkept
  have hperm := (List.mergeSort_perm list fun a b => (cmp a b).isLE).filter p
  exact (hkept.eq_of_length hperm.length_eq.symm).symm

/-- The first element of a list in order does not come after that of another list that has as many
elements up to the latter. -/
theorem isLE_of_countP_eq {a b : α} {as bs : List α} (hb : ∀ c ∈ bs, cmp b c ≠ .gt)
    (hcount : (a :: as).countP (fun c => (cmp c a).isLE) =
      (b :: bs).countP fun c => (cmp c a).isLE) : (cmp b a).isLE = true := by
  have hpos : 0 < (a :: as).countP fun c => (cmp c a).isLE :=
    List.countP_pos_iff.mpr ⟨a, List.mem_cons_self, ReflCmp.isLE_rfl⟩
  rw [hcount] at hpos
  obtain ⟨c, hc, hca⟩ := List.countP_pos_iff.mp hpos
  rcases List.mem_cons.mp hc with rfl | hc
  · exact hca
  · exact TransCmp.isLE_trans (Ordering.ne_gt_iff_isLE.mp (hb c hc)) hca

/-- Two lists in order that have equally many elements up to each place are equal place by place. -/
theorem forall₂_of_countP_eq {as bs : List α} (ha : as.Pairwise fun a b => cmp a b ≠ .gt)
    (hb : bs.Pairwise fun a b => cmp a b ≠ .gt)
    (hcount : ∀ k, as.countP (fun a => (cmp a k).isLE) = bs.countP fun b => (cmp b k).isLE) :
    List.Forall₂ (fun a b => cmp a b = .eq) as bs := by
  induction as generalizing bs with
  | nil =>
    cases bs with
    | nil => exact .nil
    | cons b bs =>
      have hnone := hcount b
      simp [ReflCmp.compare_self] at hnone
  | cons a as ih =>
    cases bs with
    | nil =>
      have hnone := hcount a
      simp [ReflCmp.compare_self] at hnone
    | cons b bs =>
      rw [List.pairwise_cons] at ha hb
      have hba : (cmp b a).isLE = true := isLE_of_countP_eq hb.1 (hcount a)
      have hab : (cmp a b).isLE = true := isLE_of_countP_eq ha.1 (hcount b).symm
      have heq : cmp a b = .eq := OrientedCmp.isLE_antisymm hab hba
      refine .cons heq (ih ha.2 hb.2 fun k => ?_)
      have hk := hcount k
      rw [List.countP_cons, List.countP_cons, TransCmp.congr_left heq] at hk
      exact Nat.add_right_cancel hk

/-- Lists that are permutations of each other are equal place by place once they are in order. -/
theorem forall₂_sorted_of_perm {as bs : List α} (h : as.Perm bs) :
    List.Forall₂ (fun a b => cmp a b = .eq) (as.mergeSort fun a b => (cmp a b).isLE)
      (bs.mergeSort fun a b => (cmp a b).isLE) := by
  refine forall₂_of_countP_eq (pairwise_sorted as) (pairwise_sorted bs) fun k => ?_
  exact ((List.mergeSort_perm as _).trans (h.trans (List.mergeSort_perm bs _).symm)).countP_eq _

end Sorting

/-- Sorting only changes the order of keys. -/
theorem sortKeys_perm (keys : List String) : (sortKeys keys).Perm keys :=
  List.mergeSort_perm keys _

/-- Of sorted keys, none is greater than a later one. -/
theorem pairwise_sortKeys (keys : List String) :
    (sortKeys keys).Pairwise fun a b => compareKey a b ≠ .gt := pairwise_sorted keys

/-- Keys in order are sorted already. -/
theorem sortKeys_of_pairwise {keys : List String}
    (h : keys.Pairwise fun a b => compareKey a b ≠ .gt) : sortKeys keys = keys :=
  List.mergeSort_of_pairwise (h.imp fun hab => Ordering.ne_gt_iff_isLE.mp hab)

/-- Sorting keys keeps the order of those among which none comes before another. -/
theorem filter_sortKeys {p : String → Bool}
    (hp : ∀ a b, p a = true → p b = true → compareKey a b ≠ .gt) (keys : List String) :
    (sortKeys keys).filter p = keys.filter p := filter_sorted hp keys

/-- Sorted keys are the keys given, in collation order, equal ones in the order given, and sorting
them again changes nothing. Permuted keys are sorted into keys that are equal place by place, and
into the same keys if no two different ones are equal. -/
theorem sortKeys_stable_and_determined :
    (∀ keys : List String,
      (sortKeys keys).Perm keys ∧
      (sortKeys keys).Pairwise (fun a b => compareKey a b ≠ .gt) ∧
      (∀ key, (sortKeys keys).filter (fun k => compareKey k key = .eq) =
        keys.filter fun k => compareKey k key = .eq) ∧
      sortKeys (sortKeys keys) = sortKeys keys) ∧
    (∀ keys permuted : List String, keys.Perm permuted →
      List.Forall₂ (fun a b => compareKey a b = .eq) (sortKeys keys) (sortKeys permuted) ∧
      ((∀ a ∈ keys, ∀ b ∈ keys, compareKey a b = .eq → a = b) →
        sortKeys keys = sortKeys permuted)) := by
  refine ⟨fun keys => ⟨sortKeys_perm keys, pairwise_sortKeys keys, fun key => ?_,
    sortKeys_of_pairwise (pairwise_sortKeys keys)⟩, fun keys permuted hperm => ?_⟩
  · refine filter_sortKeys (fun a b ha hb => ?_) keys
    -- Two keys that are equal to a third one are equal to each other.
    rw [TransCmp.congr_left (of_decide_eq_true ha), OrientedCmp.eq_symm (of_decide_eq_true hb)]
    decide
  · have hequal : List.Forall₂ (fun a b => compareKey a b = .eq) (sortKeys keys)
        (sortKeys permuted) := forall₂_sorted_of_perm hperm
    refine ⟨hequal, fun hdistinct => ?_⟩
    obtain ⟨hlength, hzip⟩ := List.forall₂_iff_zip.mp hequal
    rw [← List.forall₂_eq_eq_eq]
    refine List.forall₂_iff_zip.mpr ⟨hlength, fun {a b} hab => ?_⟩
    obtain ⟨ha, hb⟩ := List.of_mem_zip hab
    have ha : a ∈ keys := (sortKeys_perm keys).mem_iff.mp ha
    have hb : b ∈ keys := hperm.mem_iff.mpr ((sortKeys_perm permuted).mem_iff.mp hb)
    exact hdistinct a ha b hb (hzip hab)

/-- Zeros of different signs are equal keys, so the order in which they are given shows in the
sorted keys, between the empty key and one that does not decode; one and two are always sorted
alike. -/
theorem sortKeys_stable_and_determined_zeros :
    ["", "0", "-0.0", "["].Perm ["[", "-0.0", "0", ""] ∧
    List.Forall₂ (fun a b => compareKey a b = .eq) ["", "0", "-0.0", "["]
      (sortKeys ["[", "-0.0", "0", ""]) ∧
    sortKeys ["[", "-0.0", "0", ""] ≠ ["", "0", "-0.0", "["] ∧
    sortKeys ["2", "1"] = ["1", "2"] := by
  obtain ⟨hsorts, hpermuted⟩ := sortKeys_stable_and_determined
  have hzeros : sortKeys ["", "0", "-0.0", "["] = ["", "0", "-0.0", "["] :=
    sortKeys_of_pairwise (by decide +kernel)
  have hdigits : sortKeys ["1", "2"] = ["1", "2"] := sortKeys_of_pairwise (by decide +kernel)
  have hperm : ["", "0", "-0.0", "["].Perm ["[", "-0.0", "0", ""] := by decide
  have hequal := (hpermuted _ _ hperm).1
  rw [hzeros] at hequal
  refine ⟨hperm, hequal, fun h => ?_, ?_⟩
  · -- The zeros would have changed places.
    have hstable := (hsorts ["[", "-0.0", "0", ""]).2.2.1 "0"
    rw [h] at hstable
    exact absurd hstable (by decide +kernel)
  · have hdistinct : ∀ a ∈ ["1", "2"], ∀ b ∈ ["1", "2"], compareKey a b = .eq → a = b := by
      decide +kernel
    rw [← (hpermuted _ _ (List.Perm.swap "2" "1" [])).2 hdistinct, hdigits]

end DocQuery.Collation
