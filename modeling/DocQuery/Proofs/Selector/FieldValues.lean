import DocQuery.Proofs.Selector.FieldKeys
import DocQuery.Proofs.Selector.Sameness

/-!
# Values at fields

A selector whose tests all stand below fields sees of a document what stands at its outermost
fields, and nothing else. A field that an object lacks, a field of a value that is no object and a
field that is null all read as null, so documents may differ in which of the three they have.
-/

namespace DocQuery

namespace Json

/-- What a value reads as along keys: the members on the way, and null where there is none. -/
inductive ReadsAs : Json → List String → Json → Prop
  | here (value : Json) : ReadsAs value [] value
  | member {members : List (String × Json)} {key : String} {value result : Json}
    {keys : List String} (mem : (key, value) ∈ members) (rest : ReadsAs value keys result) :
    ReadsAs (.obj members) (key :: keys) result
  | missing {members : List (String × Json)} {key : String}
    (absent : key ∉ members.map Prod.fst) (keys : List String) :
    ReadsAs (.obj members) (key :: keys) .null
  | notObject {value : Json} (h : value.kind ≠ .object) (key : String) (keys : List String) :
    ReadsAs value (key :: keys) .null

/-- Keys are followed from the first one on. -/
theorem reach_cons (value : Json) (key : String) (keys : List String) :
    value.reach (key :: keys) = (value.member key).reach keys := rfl

/-- Null has nothing but null at its fields. -/
theorem reach_null (keys : List String) : null.reach keys = null := by
  induction keys with
  | nil => rfl
  | cons key rest ih => exact ih

/-- A field of a value that is no object is null. -/
theorem member_of_not_object {value : Json} (h : value.kind ≠ .object) (key : String) :
    value.member key = null := by
  cases value with
  | obj members => exact absurd rfl h
  | _ => rfl

/-- In a well-formed value, what keys read as is what they reach. -/
theorem ReadsAs.reach_eq {value result : Json} {keys : List String}
    (h : value.ReadsAs keys result) (hwf : value.WellFormed) : value.reach keys = result := by
  induction h with
  | here value => rfl
  | @member members key value result keys mem rest ih =>
    obtain ⟨hsorted, hmembers⟩ := (wellFormed_obj members).mp hwf
    have hfound : (obj members).member key = value := by
      rw [Json.member, hsorted.find?_eq_some_iff.mpr mem, Option.getD_some]
    rw [reach_cons, hfound, ih (hmembers _ mem)]
  | @missing members key absent keys =>
    have hnull : (obj members).member key = null := by
      rw [Json.member, Entries.find?_eq_none_iff.mpr absent, Option.getD_none]
    rw [reach_cons, hnull, reach_null]
  | @notObject value h key keys => rw [reach_cons, member_of_not_object h, reach_null]

/-- Every value can be read along any keys. -/
theorem readsAs_reach (value : Json) (keys : List String) :
    value.ReadsAs keys (value.reach keys) := by
  induction keys generalizing value with
  | nil => exact .here value
  | cons key rest ih =>
    by_cases hobject : value.kind = .object
    · cases value with
      | obj members =>
        cases hfound : Entries.find? key members with
        | some found =>
          have hmember : (obj members).member key = found := by
            rw [Json.member, hfound, Option.getD_some]
          rw [reach_cons, hmember]
          exact .member (Entries.mem_of_find?_eq_some hfound) (ih found)
        | none =>
          have hnull : (obj members).member key = null := by
            rw [Json.member, hfound, Option.getD_none]
          rw [reach_cons, hnull, reach_null]
          exact .missing (Entries.find?_eq_none_iff.mp hfound) rest
      | _ => cases hobject
    · rw [reach_cons, member_of_not_object hobject, reach_null]
      exact .notObject hobject key rest

/-- A well-formed value reads as the value at the field and as nothing else. -/
theorem readsAs_iff {value result : Json} {keys : List String} (hwf : value.WellFormed) :
    value.ReadsAs keys result ↔ value.reach keys = result := by
  constructor
  · intro h
    exact h.reach_eq hwf
  · rintro rfl
    exact readsAs_reach value keys

/-- The members of an object are those found under their keys. -/
theorem member_eq_iff {members : List (String × Json)} (h : Entries.Sorted members) {key : String}
    {value : Json} (hvalue : value ≠ null) :
    (obj members).member key = value ↔ (key, value) ∈ members := by
  rw [← h.find?_eq_some_iff, Json.member]
  cases Entries.find? key members with
  | none => simp [Ne.symm hvalue]
  | some found => simp

/-- Objects with the same members that are not null under a key have the same value there. -/
theorem member_congr {as bs : List (String × Json)} (ha : Entries.Sorted as)
    (hb : Entries.Sorted bs) {key : String}
    (h : ∀ value, value ≠ null → ((key, value) ∈ as ↔ (key, value) ∈ bs)) :
    (obj as).member key = (obj bs).member key := by
  by_cases hnull : (obj bs).member key = null
  · by_contra hne
    rw [hnull] at hne
    have hmem := (h _ hne).mp ((member_eq_iff ha hne).mp rfl)
    exact hne ((member_eq_iff hb hne).mpr hmem ▸ hnull)
  · exact (member_eq_iff ha hnull).mpr ((h _ hnull).mpr ((member_eq_iff hb hnull).mp rfl))

end Json

/-- A path has a first key. -/
theorem FieldPath.exists_keys_eq_cons (path : FieldPath) :
    ∃ key rest, path.keys = key :: rest := by
  rw [path.keys_eq]
  exact List.exists_cons_of_ne_nil (splitKeys_ne_nil path.name)

namespace Selector

mutual

/-- The fields that a selector reads of the value it is applied to, from left to right. -/
def outermostFields : Selector → List FieldPath
  | .combination _ children => outermostFieldsOfList children
  | .not child => child.outermostFields
  | .field path _ => [path]
  | .condition _ => []
  | .element _ _ => []

/-- The fields that several selectors read, one selector after the other. -/
def outermostFieldsOfList : List Selector → List FieldPath
  | [] => []
  | selector :: rest => selector.outermostFields ++ outermostFieldsOfList rest

end

/-- The outermost fields of several selectors are those of each of them. -/
theorem mem_outermostFieldsOfList {selectors : List Selector} {path : FieldPath} :
    path ∈ outermostFieldsOfList selectors ↔
      ∃ selector ∈ selectors, path ∈ selector.outermostFields := by
  induction selectors with
  | nil => simp [outermostFieldsOfList]
  | cons selector rest ih => simp [outermostFieldsOfList, ih]

/-- Every test of a value, of its items or of its keys stands below a field. -/
inductive BelowFields : Selector → Prop
  | combination (combinator : Combinator) {children : List Selector}
    (h : ∀ child ∈ children, BelowFields child) : BelowFields (.combination combinator children)
  | not {child : Selector} (h : BelowFields child) : BelowFields (.not child)
  | field (path : FieldPath) (inner : Selector) : BelowFields (.field path inner)

/-- Values that are the same at the outermost fields satisfy the same selectors. -/
theorem BelowFields.isSatisfiedBy_eq {s : Selector} (hs : s.BelowFields) {d e : Json}
    (h : ∀ path ∈ s.outermostFields, d.reach path.keys = e.reach path.keys) :
    s.isSatisfiedBy d = s.isSatisfiedBy e := by
  induction hs with
  | combination combinator _ ih =>
    refine isSatisfiedBy_combination_congr combinator (List.forall₂_same.mpr ?_)
    intro child hchild
    refine ih child hchild fun path hpath => h path ?_
    exact mem_outermostFieldsOfList.mpr ⟨child, hchild, hpath⟩
  | not _ ih => rw [isSatisfiedBy, isSatisfiedBy, ih h]
  | field path inner => rw [isSatisfiedBy, isSatisfiedBy, h path List.mem_cons_self]

/-- A selector whose tests stand below fields depends on what a document reads as at its outermost
fields alone. Members of a document that are null or under a key that no outermost field begins with
make no difference. -/
theorem depends_on_outermostFields {s : Selector} (hs : s.BelowFields) :
    (∀ d e : Json, d.WellFormed → e.WellFormed →
      (∀ path ∈ s.outermostFields, ∃ value,
        d.ReadsAs path.keys value ∧ e.ReadsAs path.keys value) →
      s.isSatisfiedBy d = s.isSatisfiedBy e) ∧
    (∀ as bs : List (String × Json), (Json.obj as).WellFormed → (Json.obj bs).WellFormed →
      (∀ path ∈ s.outermostFields, ∀ key, path.keys.head? = some key → ∀ value, value ≠ .null →
        ((key, value) ∈ as ↔ (key, value) ∈ bs)) →
      s.isSatisfiedBy (.obj as) = s.isSatisfiedBy (.obj bs)) := by
  constructor
  · intro d e hd he h
    refine hs.isSatisfiedBy_eq fun path hpath => ?_
    obtain ⟨value, hreadD, hreadE⟩ := h path hpath
    rw [(Json.readsAs_iff hd).mp hreadD, (Json.readsAs_iff he).mp hreadE]
  · intro as bs ha hb h
    refine hs.isSatisfiedBy_eq fun path hpath => ?_
    obtain ⟨key, rest, hkeys⟩ := path.exists_keys_eq_cons
    have hmember : (Json.obj as).member key = (Json.obj bs).member key :=
      Json.member_congr ((Json.wellFormed_obj as).mp ha).1 ((Json.wellFormed_obj bs).mp hb).1
        (h path hpath key (hkeys ▸ rfl))
    rw [hkeys, Json.reach_cons, Json.reach_cons, hmember]

/-- A field that is null, one of a string, one that is missing and one of a number are all the same
to a selector that looks below them, and so is a document with a null and one without. -/
theorem depends_on_outermostFields_absent :
    let selector : Json := .single "$or" (.arr [
      .single "a\\.b.c" (.single "$exists" (.bool true)),
      .single "$not" (.single "d." (.single "$elemMatch" (.single "$eq" .null)))])
    let number : Number := .ofUInt64 5
    let d : Json := .obj [("a.b", .single "c" .null), ("d", .num number)]
    let e : Json := .obj [("a.b", .str "c"), ("x", .bool true)]
    ∃ s, ofJson selector = .ok s ∧
      s.outermostFields.map FieldPath.keys = [["a.b", "c"], ["d", ""]] ∧
      s.isSatisfiedBy d = true ∧ s.isSatisfiedBy e = true ∧
      s.isSatisfiedBy (.single "d" .null) = s.isSatisfiedBy (.single "x" (.num number)) := by
  intro selector number d e
  let escaped : FieldPath := .ofName "a\\.b.c"
  let empty : FieldPath := .ofName "d."
  let s : Selector := .combination .or [.field escaped (.condition (.present true)),
    .not (.field empty (.element .someItem (.condition (.compare .eq .null))))]
  have hs : s.BelowFields := by
    refine .combination .or (List.forall_mem_cons.mpr ⟨.field _ _, ?_⟩)
    exact List.forall_mem_singleton.mpr (.not (.field _ _))
  have hfields {p : FieldPath → Prop} (hfirst : p escaped) (hlast : p empty) :
      ∀ path ∈ s.outermostFields, p path :=
    List.forall_mem_cons.mpr ⟨hfirst, List.forall_mem_singleton.mpr hlast⟩
  have hescaped : escaped.keys = ["a.b", "c"] := by decide
  have hempty : empty.keys = ["d", ""] := by decide
  obtain ⟨hreads, hmembers⟩ := depends_on_outermostFields hs
  have hd : d.WellFormed := by
    refine (Json.wellFormed_obj _).mpr ⟨List.pairwise_pair.mpr (by decide), ?_⟩
    simp [Json.single, Json.WellFormed, Json.WellFormedMembers, Entries.Sorted]
  have he : e.WellFormed := by
    refine (Json.wellFormed_obj _).mpr ⟨List.pairwise_pair.mpr (by decide), ?_⟩
    simp [Json.WellFormed]
  have hsame : s.isSatisfiedBy d = s.isSatisfiedBy e := by
    refine hreads d e hd he (hfields ⟨.null, ?_, ?_⟩ ⟨.null, ?_, ?_⟩)
    · rw [hescaped]
      exact .member List.mem_cons_self (.member List.mem_cons_self (.here _))
    · rw [hescaped]
      exact .member List.mem_cons_self (.notObject (by decide) _ _)
    · rw [hempty]
      exact .member (List.mem_cons_of_mem _ List.mem_cons_self) (.notObject (by decide) _ _)
    · rw [hempty]
      exact .missing (by decide) _
  have hfound : s.isSatisfiedBy d = true := by decide +kernel
  refine ⟨s, rfl, ?_, hfound, hsame ▸ hfound, ?_⟩
  · simp only [s, outermostFields, outermostFieldsOfList, List.append_nil, List.singleton_append,
      List.map_cons, List.map_nil, hescaped, hempty]
  · refine hmembers _ _ ?_ ?_ (hfields ?_ ?_)
    all_goals simp [hescaped, hempty, Json.WellFormed, Json.WellFormedMembers, Entries.Sorted]

end Selector

end DocQuery
