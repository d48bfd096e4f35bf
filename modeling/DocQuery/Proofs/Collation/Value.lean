import DocQuery.Collation.Value
import DocQuery.Proofs.Collation.Text
import DocQuery.Proofs.Json.Induction
import Mathlib.Data.Fintype.Defs

/-!
# The order of values

Arranging all objects at once and comparing afterwards is the same as arranging two objects when
they meet, so `compareValue` satisfies one equation for each kind of value. Swapping and
transitivity follow by induction over the first value. Transitivity is carried through the levels
of a comparison as a relation between three orders, `Composes`, which `Ordering.then` keeps.
-/

namespace DocQuery

/-- Items are arranged one by one. -/
theorem Json.arrangedItems_eq_map (items : List Json) :
    Json.arrangedItems items = items.map Json.arranged := by
  induction items with
  | nil => rfl
  | cons item rest ih => simp only [Json.arrangedItems, ih, List.map_cons]

/-- Members are arranged one by one. -/
theorem Json.arrangedMembers_eq_map (members : List (String × Json)) :
    Json.arrangedMembers members = members.map fun entry => (entry.1, entry.2.arranged) := by
  induction members with
  | nil => rfl
  | cons entry rest ih => simp only [Json.arrangedMembers, ih, List.map_cons]

namespace Collation

open Std

/-- Arranged arrays are compared lexicographically. -/
theorem compareItems_eq_compareLex (as bs : List Json) :
    compareItems as bs = List.compareLex compareArranged as bs := by
  induction as generalizing bs with
  | nil => cases bs <;> rfl
  | cons a as ih =>
    cases bs with
    | nil => rfl
    | cons b bs => rw [compareItems, List.compareLex_cons_cons, ih]

/-- The order of two members by an order of their values: the key counts first. -/
def compareEntry (order : Json → Json → Ordering) (a b : String × Json) : Ordering :=
  (compareText a.1 b.1).then (order a.2 b.2)

/-- Arranged objects are compared lexicographically, by their members. -/
theorem compareMembers_eq_compareLex (as bs : List (String × Json)) :
    compareMembers as bs = List.compareLex (compareEntry compareArranged) as bs := by
  induction as generalizing bs with
  | nil => cases bs <;> rfl
  | cons a as ih =>
    cases bs with
    | nil => rfl
    | cons b bs =>
      rw [compareMembers, List.compareLex_cons_cons, ih, compareEntry]
      cases compareText a.1 b.1 <;> rfl

/-- The members of an object in collation order of their keys. -/
def sortMembers (members : List (String × Json)) : List (String × Json) :=
  members.mergeSort fun a b => (compareText a.1 b.1).isLE

/-- An object is arranged by sorting its members and arranging their values. -/
theorem arranged_obj (members : List (String × Json)) :
    (Json.obj members).arranged =
      .obj ((sortMembers members).map fun entry => (entry.1, entry.2.arranged)) := by
  rw [Json.arranged, Json.arrangedMembers_eq_map]
  exact congrArg Json.obj
    (List.map_mergeSort (f := fun entry : String × Json => (entry.1, entry.2.arranged))
      fun _ _ _ _ => rfl).symm

private theorem compareLex_map {α β : Type} (cmp : β → β → Ordering) (f : α → β)
    (as bs : List α) :
    List.compareLex cmp (as.map f) (bs.map f) =
      List.compareLex (fun a b => cmp (f a) (f b)) as bs := by
  induction as generalizing bs with
  | nil => cases bs <;> rfl
  | cons a as ih =>
    cases bs with
    | nil => rfl
    | cons b bs => simp only [List.map_cons, List.compareLex_cons_cons, ih]

/-- Values of different kinds are ordered by their kinds. -/
theorem compareValue_of_kind_ne {a b : Json} (h : a.kind ≠ b.kind) :
    compareValue a b = compare a.kind.rank b.kind.rank := by
  cases a <;> cases b <;> first | rfl | exact absurd rfl h

/-- Booleans are compared as such. -/
@[simp] theorem compareValue_bool (a b : Bool) :
    compareValue (.bool a) (.bool b) = compare a b := rfl

/-- Numbers are compared as such. -/
@[simp] theorem compareValue_num (x y : Number) :
    compareValue (.num x) (.num y) = x.cmp y := rfl

/-- Strings are compared as texts. -/
@[simp] theorem compareValue_str (s t : String) :
    compareValue (.str s) (.str t) = compareText s t := rfl

/-- Arrays compare item by item. -/
@[simp] theorem compareValue_arr (as bs : List Json) :
    compareValue (.arr as) (.arr bs) = List.compareLex compareValue as bs := by
  rw [compareValue, Json.arranged, Json.arranged, compareArranged, compareItems_eq_compareLex,
    Json.arrangedItems_eq_map, Json.arrangedItems_eq_map, compareLex_map]
  rfl

/-- Objects compare member by member, their members in the order of the keys. -/
@[simp] theorem compareValue_obj (as bs : List (String × Json)) :
    compareValue (.obj as) (.obj bs) =
      List.compareLex (compareEntry compareValue) (sortMembers as) (sortMembers bs) := by
  rw [compareValue, arranged_obj, arranged_obj, compareArranged, compareMembers_eq_compareLex,
    compareLex_map]
  rfl

private theorem compareLex_swap {α : Type} {cmp : α → α → Ordering} (as bs : List α)
    (h : ∀ a ∈ as, ∀ b, cmp a b = (cmp b a).swap) :
    List.compareLex cmp as bs = (List.compareLex cmp bs as).swap := by
  induction as generalizing bs with
  | nil => cases bs <;> rfl
  | cons a as ih =>
    cases bs with
    | nil => rfl
    | cons b bs =>
      have hhead := h a List.mem_cons_self b
      have htail := ih bs fun x hx => h x (List.mem_cons_of_mem a hx)
      rw [List.compareLex_cons_cons, List.compareLex_cons_cons, hhead, htail, Ordering.swap_then]

/-- Sorting keeps all members and adds none. -/
theorem mem_sortMembers {members : List (String × Json)} {entry : String × Json} :
    entry ∈ sortMembers members ↔ entry ∈ members := List.mem_mergeSort

private theorem compareEntry_swap {a b : String × Json}
    (h : compareValue a.2 b.2 = (compareValue b.2 a.2).swap) :
    compareEntry compareValue a b = (compareEntry compareValue b a).swap := by
  rw [compareEntry, compareEntry, h, compareText_swap a.1 b.1, Ordering.swap_then]

/-- Exchanging two values reverses their order. -/
theorem compareValue_swap (a b : Json) : compareValue a b = (compareValue b a).swap := by
  induction a using Json.inductionOn generalizing b with
  | null => cases b <;> rfl
  | bool x => cases b <;> exact OrientedOrd.eq_swap
  | num x => cases b <;> exact OrientedOrd.eq_swap
  | str s => cases b <;> first | exact compareText_swap s _ | rfl
  | arr as ih =>
    cases b with
    | arr bs =>
      rw [compareValue_arr, compareValue_arr]
      exact compareLex_swap as bs ih
    | _ => rfl
  | obj as ih =>
    cases b with
    | obj bs =>
      rw [compareValue_obj, compareValue_obj]
      exact compareLex_swap _ _ fun x hx y => compareEntry_swap (ih x (mem_sortMembers.mp hx) y.2)
    | _ => rfl

/-- How the orders of `a` and `b`, of `b` and `c`, and of `a` and `c` go together: an equal step
does not count, and two steps in one direction lead in that direction. -/
def Composes (ab bc ac : Ordering) : Prop :=
  (ab = .eq → ac = bc) ∧ (bc = .eq → ac = ab) ∧ (ab = bc → ac = ab)

instance (ab bc ac : Ordering) : Decidable (Composes ab bc ac) :=
  inferInstanceAs <| Decidable (_ ∧ _ ∧ _)

/-- Orders that compose level by level compose as a whole. -/
theorem Composes.then : ∀ {ab bc ac ab' bc' ac' : Ordering}, Composes ab bc ac →
    Composes ab' bc' ac' → Composes (ab.then ab') (bc.then bc') (ac.then ac') := by
  decide

/-- The steps of a total preorder compose. -/
theorem composes_of_transCmp {α : Type} (cmp : α → α → Ordering) [TransCmp cmp] (a b c : α) :
    Composes (cmp a b) (cmp b c) (cmp a c) := by
  refine ⟨TransCmp.congr_left, fun h => (TransCmp.congr_right h).symm, fun h => ?_⟩
  cases hab : cmp a b with
  | lt => exact TransCmp.lt_trans hab (h ▸ hab)
  | eq => exact TransCmp.eq_trans hab (h ▸ hab)
  | gt => exact TransCmp.gt_trans hab (h ▸ hab)

private theorem composes_compareLex {α : Type} {cmp : α → α → Ordering} (as bs cs : List α)
    (h : ∀ a ∈ as, ∀ b c, Composes (cmp a b) (cmp b c) (cmp a c)) :
    Composes (List.compareLex cmp as bs) (List.compareLex cmp bs cs)
      (List.compareLex cmp as cs) := by
  induction as generalizing bs cs with
  | nil =>
    cases bs <;> cases cs <;>
      simp [Composes, List.compareLex_nil_nil, List.compareLex_nil_cons, List.compareLex_cons_nil]
  | cons a as ih =>
    cases bs with
    | nil =>
      cases cs <;>
        simp [Composes, List.compareLex_nil_nil, List.compareLex_nil_cons, List.compareLex_cons_nil]
    | cons b bs =>
      cases cs with
      | nil =>
        rw [List.compareLex_cons_nil, List.compareLex_cons_nil]
        cases List.compareLex cmp (a :: as) (b :: bs) <;> decide
      | cons c cs =>
        rw [List.compareLex_cons_cons, List.compareLex_cons_cons, List.compareLex_cons_cons]
        exact (h a List.mem_cons_self b c).then
          (ih bs cs fun x hx => h x (List.mem_cons_of_mem a hx))

private theorem compare_rank_ne_eq {a b : Json.Kind} (h : a ≠ b) :
    compare a.rank b.rank ≠ .eq := by
  intro heq
  have hrank := LawfulEqOrd.eq_of_compare heq
  cases a <;> cases b <;> first | exact h rfl | exact absurd hrank (by decide)

private theorem composes_of_kind_ne {a b c : Json} (h : ¬(a.kind = b.kind ∧ b.kind = c.kind)) :
    Composes (compareValue a b) (compareValue b c) (compareValue a c) := by
  by_cases hab : a.kind = b.kind
  · have hbc : b.kind ≠ c.kind := fun heq => h ⟨hab, heq⟩
    have hac : a.kind ≠ c.kind := hab ▸ hbc
    rw [compareValue_of_kind_ne hbc, compareValue_of_kind_ne hac, hab]
    exact ⟨fun _ => rfl, fun heq => absurd heq (compare_rank_ne_eq hbc), Eq.symm⟩
  · by_cases hbc : b.kind = c.kind
    · have hac : a.kind ≠ c.kind := hbc ▸ hab
      rw [compareValue_of_kind_ne hab, compareValue_of_kind_ne hac, hbc]
      exact ⟨fun heq => absurd heq (compare_rank_ne_eq (hbc ▸ hab)), fun _ => rfl, fun _ => rfl⟩
    · rw [compareValue_of_kind_ne hab, compareValue_of_kind_ne hbc]
      by_cases hac : a.kind = c.kind
      · -- Two steps over another kind and back go in opposite directions.
        have hne := compare_rank_ne_eq hab
        rw [← hac, OrientedOrd.eq_swap (a := b.kind.rank)]
        refine ⟨fun heq => absurd heq hne, fun heq => ?_, fun heq => ?_⟩
        · exact absurd (Ordering.swap_eq_eq.mp heq) hne
        · cases ho : compare a.kind.rank b.kind.rank with
          | eq => exact absurd ho hne
          | _ => rw [ho] at heq; cases heq
      · rw [compareValue_of_kind_ne hac]
        exact composes_of_transCmp compare _ _ _

private theorem composes_entry {a b c : String × Json}
    (h : Composes (compareValue a.2 b.2) (compareValue b.2 c.2) (compareValue a.2 c.2)) :
    Composes (compareEntry compareValue a b) (compareEntry compareValue b c)
      (compareEntry compareValue a c) :=
  (composes_of_transCmp compareText a.1 b.1 c.1).then h

/-- The orders of three values compose. -/
theorem composes_compareValue (a b c : Json) :
    Composes (compareValue a b) (compareValue b c) (compareValue a c) := by
  induction a using Json.inductionOn generalizing b c with
  | null =>
    cases b <;> cases c <;> first | decide | exact composes_of_kind_ne (by simp [Json.kind])
  | bool x =>
    cases b with
    | bool y =>
      cases c with
      | bool z =>
        rw [compareValue_bool, compareValue_bool, compareValue_bool]
        exact composes_of_transCmp compare x y z
      | _ => exact composes_of_kind_ne (by simp [Json.kind])
    | _ => exact composes_of_kind_ne (by simp [Json.kind])
  | num x =>
    cases b with
    | num y =>
      cases c with
      | num z =>
        rw [compareValue_num, compareValue_num, compareValue_num]
        exact composes_of_transCmp compare x.toBinary64.units y.toBinary64.units
          z.toBinary64.units
      | _ => exact composes_of_kind_ne (by simp [Json.kind])
    | _ => exact composes_of_kind_ne (by simp [Json.kind])
  | str s =>
    cases b with
    | str t =>
      cases c with
      | str u =>
        rw [compareValue_str, compareValue_str, compareValue_str]
        exact composes_of_transCmp compareText s t u
      | _ => exact composes_of_kind_ne (by simp [Json.kind])
    | _ => exact composes_of_kind_ne (by simp [Json.kind])
  | arr as ih =>
    cases b with
    | arr bs =>
      cases c with
      | arr cs =>
        rw [compareValue_arr, compareValue_arr, compareValue_arr]
        exact composes_compareLex as bs cs ih
      | _ => exact composes_of_kind_ne (by simp [Json.kind])
    | _ => exact composes_of_kind_ne (by simp [Json.kind])
  | obj as ih =>
    cases b with
    | obj bs =>
      cases c with
      | obj cs =>
        rw [compareValue_obj, compareValue_obj, compareValue_obj]
        exact composes_compareLex _ _ _ fun x hx y z =>
          composes_entry (ih x (mem_sortMembers.mp hx) y.2 z.2)
      | _ => exact composes_of_kind_ne (by simp [Json.kind])
    | _ => exact composes_of_kind_ne (by simp [Json.kind])

/-- The order of values is a total preorder. -/
instance : TransCmp compareValue where
  eq_swap {a b} := compareValue_swap a b
  isLE_trans {a b c} hab hbc := by
    obtain ⟨heq, -, hsame⟩ := composes_compareValue a b c
    cases ho : compareValue a b with
    | eq => rwa [heq ho]
    | gt => rw [ho] at hab; cases hab
    | lt =>
      cases hp : compareValue b c with
      | lt => rw [hsame (ho.trans hp.symm), ho]; rfl
      | eq => rw [(composes_compareValue a b c).2.1 hp, ho]; rfl
      | gt => rw [hp] at hbc; cases hbc

end Collation

end DocQuery
