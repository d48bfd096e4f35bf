import DocQuery.Proofs.View.Consistency
import DocQuery.Proofs.View.KeyRange

/-!
# Reduced rows and grouped rows

A reduced row covers the keys from a first to a last one. The start key of a query bounds its first
key and the end key its last one, in either direction. So in increasing order a reduced row is
accepted exactly if grouped rows with every key that it covers are. In decreasing order it is
accepted as soon as it reaches into the range. A list of keys asks a reduced row to be equal to all
of them, where it asks a grouped row to be equal to one.
-/

namespace DocQuery

open Std
open Sql (ColumnOrder Restriction Row accepts)

namespace Sql

/-- Whether the columns that hold keys are in collation order. -/
structure CollatesKeys (order : ColumnOrder) : Prop where
  key : order .key = Collation.compareKey
  firstKey : order .firstKey = Collation.compareKey
  lastKey : order .lastKey = Collation.compareKey

/-- Whether a reduced row covers a key. -/
structure Covers (row : Row) (k : String) : Prop where
  fromFirst : Collation.compareKey (row .firstKey) k ≠ .gt
  toLast : Collation.compareKey k (row .lastKey) ≠ .gt

/-- Whether a reduced row covers the key of a grouped row and no other place in the order. -/
structure SingleKey (row group : Row) : Prop where
  firstKey_eq : row .firstKey = group .key
  lastKey_eq : row .lastKey = group .key

variable {row : Row}

/-- A row whose first key does not come after its last one covers both. -/
theorem covers_firstKey (h : Collation.compareKey (row .firstKey) (row .lastKey) ≠ .gt) :
    Covers row (row .firstKey) :=
  ⟨by simp, h⟩

/-- A reduced row covers its last key. -/
theorem covers_lastKey (h : Collation.compareKey (row .firstKey) (row .lastKey) ≠ .gt) :
    Covers row (row .lastKey) :=
  ⟨h, by simp⟩

end Sql

open Sql (CollatesKeys Covers SingleKey)

/-! ### The two ends of a range -/

namespace Paging

/-- Whether the start key admits a key. -/
def StartAdmits (p : Paging) (k : String) : Prop :=
  ∀ first, p.startKey = some first → p.startComparison.holds (Collation.compareKey k first) = true

/-- Whether the end key admits a key. -/
def EndAdmits (p : Paging) (k : String) : Prop :=
  ∀ last, p.endKey = some last → p.endComparison.holds (Collation.compareKey k last) = true

variable {p : Paging}

/-- Keys are equal in either direction of iteration. -/
theorem compareKey_eq_eq_iff (p : Paging) (a b : String) :
    p.compareKey a b = .eq ↔ Collation.compareKey a b = .eq := by
  rw [p.compareKey_eq, directed]
  cases p.descending <;> simp

/-- In increasing order, keys come as they are collated. -/
theorem compareKey_of_increasing (h : p.descending = false) (a b : String) :
    p.compareKey a b = Collation.compareKey a b := by
  rw [p.compareKey_eq, h]
  rfl

/-- In decreasing order, keys come the other way around. -/
theorem compareKey_of_decreasing (h : p.descending = true) (a b : String) :
    p.compareKey a b = Collation.compareKey b a := by
  rw [p.compareKey_eq, h]
  exact OrientedCmp.eq_swap.symm

/-- With a key, the start key admits all keys that come later in the direction of iteration. -/
theorem StartAdmits.later {k l : String} (h : p.StartAdmits k) (hkl : p.compareKey k l ≠ .gt) :
    p.StartAdmits l := by
  intro first hfirst
  have hk : p.compareKey k first ≠ .lt := (p.startComparison_holds _).mp (h first hfirst)
  have hfk : (p.compareKey first k).isLE :=
    OrientedCmp.isGE_iff_isLE.mp (Ordering.ne_lt_iff_isGE.mp hk)
  have hfl : (p.compareKey first l).isLE :=
    TransCmp.isLE_trans hfk (Ordering.ne_gt_iff_isLE.mp hkl)
  have hl : p.compareKey l first ≠ .lt :=
    Ordering.ne_lt_iff_isGE.mpr (OrientedCmp.isGE_iff_isLE.mpr hfl)
  exact (p.startComparison_holds _).mpr hl

/-- With a key, the end key admits all keys that come earlier in the direction of iteration. -/
theorem EndAdmits.earlier {k l : String} (h : p.EndAdmits k) (hlk : p.compareKey l k ≠ .gt) :
    p.EndAdmits l := by
  intro last hlast
  obtain ⟨hnotAfter, hexcluded⟩ := (p.endComparison_holds _).mp (h last hlast)
  have hk : (p.compareKey k last).isLE := Ordering.ne_gt_iff_isLE.mp hnotAfter
  have hl : (p.compareKey l last).isLE :=
    TransCmp.isLE_trans (Ordering.ne_gt_iff_isLE.mp hlk) hk
  refine (p.endComparison_holds _).mpr ⟨Ordering.ne_gt_iff_isLE.mpr hl, fun hinclusive heq => ?_⟩
  -- A key before an excluded end cannot be equal to it while a later one is not.
  have hsame : p.compareKey l last = .eq := (p.compareKey_eq_eq_iff l last).mpr heq
  have hlastk : (p.compareKey last k).isLE := by
    rw [TransCmp.congr_left (OrientedCmp.eq_symm hsame)]
    exact Ordering.ne_gt_iff_isLE.mp hlk
  have hkeq : p.compareKey k last = .eq := OrientedCmp.isLE_antisymm hk hlastk
  exact hexcluded hinclusive ((p.compareKey_eq_eq_iff k last).mp hkeq)

/-- Whether a key lies in a range, that is whether both ends admit it. -/
structure Admits (p : Paging) (k : String) : Prop where
  fromStart : p.StartAdmits k
  toEnd : p.EndAdmits k

variable {row : Row}

/-- In increasing order, the ends of a range admit the two keys of a row exactly if all keys that
the row covers lie in the range. -/
theorem endsAdmit_iff_of_increasing (hd : p.descending = false)
    (hrow : Collation.compareKey (row .firstKey) (row .lastKey) ≠ .gt) :
    p.StartAdmits (row .firstKey) ∧ p.EndAdmits (row .lastKey) ↔
      ∀ k, Covers row k → p.Admits k := by
  constructor
  · intro ⟨hstart, hend⟩ k hcovers
    have hfrom : p.compareKey (row .firstKey) k ≠ .gt := by
      rw [compareKey_of_increasing hd]
      exact hcovers.fromFirst
    have hto : p.compareKey k (row .lastKey) ≠ .gt := by
      rw [compareKey_of_increasing hd]
      exact hcovers.toLast
    exact ⟨hstart.later hfrom, hend.earlier hto⟩
  · intro hinside
    exact ⟨(hinside _ (Sql.covers_firstKey hrow)).fromStart,
      (hinside _ (Sql.covers_lastKey hrow)).toEnd⟩

/-- In decreasing order, the ends of a range admit the two keys of a row if some key that the row
covers lies in the range. -/
theorem endsAdmit_of_decreasing (hd : p.descending = true) {k : String} (hcovers : Covers row k)
    (hk : p.Admits k) : p.StartAdmits (row .firstKey) ∧ p.EndAdmits (row .lastKey) := by
  have hfrom : p.compareKey k (row .firstKey) ≠ .gt := by
    rw [compareKey_of_decreasing hd]
    exact hcovers.fromFirst
  have hto : p.compareKey (row .lastKey) k ≠ .gt := by
    rw [compareKey_of_decreasing hd]
    exact hcovers.toLast
  exact ⟨hk.fromStart.later hfrom, hk.toEnd.earlier hto⟩

/-- In decreasing order, if the ends of a range admit the two keys of a row and the range has a key
at all, then the row covers a key of the range. -/
theorem exists_covered_of_decreasing (hd : p.descending = true)
    (hrow : Collation.compareKey (row .firstKey) (row .lastKey) ≠ .gt)
    (hstart : p.StartAdmits (row .firstKey)) (hend : p.EndAdmits (row .lastKey)) {k : String}
    (hk : p.Admits k) : ∃ l, Covers row l ∧ p.Admits l := by
  by_cases hfrom : Collation.compareKey (row .firstKey) k = .gt
  · -- The range has a key before the row, so the first key of the row is in the range.
    have hlater : p.compareKey (row .firstKey) k ≠ .gt := by
      rw [compareKey_of_decreasing hd, OrientedCmp.gt_iff_lt.mp hfrom]
      decide
    exact ⟨_, Sql.covers_firstKey hrow, hstart, hk.toEnd.earlier hlater⟩
  · by_cases hto : Collation.compareKey k (row .lastKey) = .gt
    · have hearlier : p.compareKey k (row .lastKey) ≠ .gt := by
        rw [compareKey_of_decreasing hd, OrientedCmp.gt_iff_lt.mp hto]
        decide
      exact ⟨_, Sql.covers_lastKey hrow, hk.fromStart.later hearlier, hend⟩
    · exact ⟨k, ⟨hfrom, hto⟩, hk⟩

end Paging

/-! ### What the conditions accept -/

namespace ViewQuery

variable {order : ColumnOrder} (q : ViewQuery) (row : Row) (bound : List String)

/-- The conditions of grouped rows accept a row whose key lies in the range and is equal to the key
and to one of several keys. -/
theorem accepts_groupRestrictions (horder : CollatesKeys order) :
    accepts order row q.groupRestrictions bound = true ↔
      q.paging.Admits (row .key) ∧
      (∀ key, q.key = some key → Collation.compareKey (row .key) key = .eq) ∧
      q.Lists (row .key) := by
  rw [Sql.accepts_eq fun r => plain_of_mem_groupRestrictions, groupRestrictions, List.all_append,
    Bool.and_eq_true, Paging.restrictions, Paging.all_rangeRestrictions, all_keyRestrictions,
    horder.key]
  exact and_congr ⟨fun h => ⟨h.1, h.2⟩, fun h => ⟨h.fromStart, h.toEnd⟩⟩ Iff.rfl

/-- The conditions of reduced rows accept a row whose first key the start admits and whose last key
the end admits, and both of whose keys are equal to the key and to every one of several keys. -/
theorem accepts_reducedRestrictions (horder : CollatesKeys order) :
    accepts order row q.reducedRestrictions bound = true ↔
      q.paging.StartAdmits (row .firstKey) ∧ q.paging.EndAdmits (row .lastKey) ∧
      (∀ key, q.key = some key ∨ key ∈ q.keys →
        Collation.compareKey (row .firstKey) key = .eq ∧
          Collation.compareKey (row .lastKey) key = .eq) := by
  rw [Sql.accepts_eq fun r => plain_of_mem_reducedRestrictions, all_reducedRestrictions,
    horder.firstKey, horder.lastKey]
  rfl

end ViewQuery

/-! ### Ranges of keys -/

namespace Options

/-- Options without a key and without a list of keys restrict rows to a range only. -/
theorem keys_of_absent {o : Options} {view : String} {q : ViewQuery} (h : o.Compiles view q)
    (habsent : ∀ name ∈ ["key", "keys"], o.get? name = none) : q.key = none ∧ q.keys = [] := by
  simp only [List.forall_mem_cons] at habsent
  obtain ⟨hnoKey, hnoKeys, -⟩ := habsent
  have hkey : o.key = .ok none := readFirst_of_absent _ _ (by simp [hnoKey])
  have hkeys : o.keys = .ok [] := readFirst_of_absent _ _ (by simp [hnoKeys])
  exact ⟨Except.ok.inj (h.key.symm.trans hkey), Except.ok.inj (h.keys.symm.trans hkeys)⟩

/-- A query without keys compiles if it is assembled and its range is not refused. -/
theorem viewQuery_of_range {o : Options} {view : String} {q : ViewQuery}
    (hassembled : o.assembleQuery view = .ok q) (hkey : q.key = none) (hkeys : q.keys = [])
    (hrange : q.paging.validate.toBool = true) : o.viewQuery view = .ok q := by
  have hvalid : q.paging.validate = .ok () := by
    cases hp : q.paging.validate with
    | ok => rfl
    | error e =>
      rw [hp] at hrange
      cases hrange
  have hvalidate : q.validate = .ok () :=
    (ViewQuery.validate_eq_ok_iff q).mpr
      ⟨by simp [ViewQuery.KeysClash, hkeys], hvalid, by simp [hkey]⟩
  exact viewQuery_eq_ok_iff.mpr ⟨assembleQuery_eq_ok_iff.mp hassembled, hvalidate⟩

/-- In increasing order a reduced row is accepted exactly if every key that it covers is accepted in
a grouped row. In decreasing order, it is accepted exactly if some key that it covers is, unless the
range has no key at all. -/
theorem reduced_rows_of_key_range {order : ColumnOrder} (horder : CollatesKeys order)
    {o : Options} {view : String} {q : ViewQuery} (hcompiles : o.viewQuery view = .ok q)
    (habsent : ∀ name ∈ ["key", "keys"], o.get? name = none) {row : Row}
    (hrow : Collation.compareKey (row .firstKey) (row .lastKey) ≠ .gt)
    (bound bound' : List String) :
    (o.descending = .ok false →
      (accepts order row q.reducedRestrictions bound = true ↔
        ∀ group : Row, Covers row (group .key) →
          accepts order group q.groupRestrictions bound' = true)) ∧
    (o.descending = .ok true →
      (∃ group : Row, accepts order group q.groupRestrictions bound' = true) →
      (accepts order row q.reducedRestrictions bound = true ↔
        ∃ group : Row, Covers row (group .key) ∧
          accepts order group q.groupRestrictions bound' = true)) := by
  have h := viewQuery_eq_ok_iff.mp hcompiles
  obtain ⟨hkey, hkeys⟩ := keys_of_absent h habsent
  have hgroup : ∀ group : Row, accepts order group q.groupRestrictions bound' = true ↔
      q.paging.Admits (group .key) := by
    intro group
    rw [q.accepts_groupRestrictions group bound' horder]
    simp [hkey, hkeys, ViewQuery.Lists]
  have hreduced : accepts order row q.reducedRestrictions bound = true ↔
      q.paging.StartAdmits (row .firstKey) ∧ q.paging.EndAdmits (row .lastKey) := by
    rw [q.accepts_reducedRestrictions row bound horder]
    simp [hkey, hkeys]
  simp only [hgroup, hreduced]
  refine ⟨fun hascending => ?_, fun hdescending hsome => ?_⟩
  · have hd : q.paging.descending = false :=
      Except.ok.inj (h.paging.descending.symm.trans hascending)
    rw [Paging.endsAdmit_iff_of_increasing hd hrow]
    exact ⟨fun hinside group => hinside _, fun hinside k => hinside fun _ => k⟩
  · have hd : q.paging.descending = true :=
      Except.ok.inj (h.paging.descending.symm.trans hdescending)
    constructor
    · intro ⟨hstart, hend⟩
      obtain ⟨group, hgroup⟩ := hsome
      obtain ⟨k, hk⟩ := Paging.exists_covered_of_decreasing hd hrow hstart hend hgroup
      exact ⟨fun _ => k, hk⟩
    · rintro ⟨group, hcovers, hadmits⟩
      exact Paging.endsAdmit_of_decreasing hd hcovers hadmits

/-- A range that excludes its end, bound after another value, holds every key of a reduced row that
is accepted; a reduced row that reaches into a range in decreasing order is accepted. -/
theorem reduced_rows_of_key_range_reaching :
    let order : ColumnOrder := fun _ => Collation.compareKey
    let between (first last : String) : Row := fun | .firstKey => first | _ => last
    (∃ q : ViewQuery, viewQuery (.ofList [("endkey", .decoded (.num (.ofUInt64 3))),
          ("inclusive_end", .decoded (.bool false)),
          ("startkey", .decoded (.num (.ofUInt64 1)))]) "rows" = .ok q ∧
        ∀ k, Covers (between "1" "2") k →
          accepts order (fun _ => k) q.groupRestrictions ["other"] = true) ∧
      ∃ q : ViewQuery, viewQuery (.ofList [("descending", .decoded (.bool true)),
          ("endkey", .decoded (.num (.ofUInt64 3))),
          ("startkey", .decoded (.num (.ofUInt64 5)))]) "rows" = .ok q ∧
        accepts order (between "4" "9") q.reducedRestrictions ["other"] = true := by
  intro order between
  have horder : CollatesKeys order := ⟨rfl, rfl, rfl⟩
  let upwards : ViewQuery :=
    { ViewQuery.ofView "rows" with
      paging := { Paging.everything with
        startKey := some "1", endKey := some "3", inclusiveEnd := false } }
  let downwards : ViewQuery :=
    { ViewQuery.ofView "rows" with
      paging := { Paging.everything with
        descending := true, startKey := some "5", endKey := some "3" } }
  have hupwards : viewQuery (.ofList [("endkey", .decoded (.num (.ofUInt64 3))),
      ("inclusive_end", .decoded (.bool false)),
      ("startkey", .decoded (.num (.ofUInt64 1)))]) "rows" = .ok upwards :=
    viewQuery_of_range rfl rfl rfl (by decide +kernel)
  have hdownwards : viewQuery (.ofList [("descending", .decoded (.bool true)),
      ("endkey", .decoded (.num (.ofUInt64 3))),
      ("startkey", .decoded (.num (.ofUInt64 5)))]) "rows" = .ok downwards :=
    viewQuery_of_range rfl rfl rfl (by decide +kernel)
  have hinside : ∀ k, Covers (between "1" "2") k →
      accepts order (fun _ => k) upwards.groupRestrictions ["other"] = true := by
    intro k hk
    let row := between "1" "2"
    have hrow : Collation.compareKey (row .firstKey) (row .lastKey) ≠ .gt := by decide +kernel
    have hmeaning := reduced_rows_of_key_range horder hupwards (by decide) hrow ["other"] ["other"]
    exact (hmeaning.1 rfl).mp (by decide +kernel) (fun _ => k) hk
  have hreaching : accepts order (between "4" "9") downwards.reducedRestrictions ["other"] =
      true := by
    have hfour : accepts order (fun _ => "4") downwards.groupRestrictions ["other"] = true := by
      decide +kernel
    let row := between "4" "9"
    have hrow : Collation.compareKey (row .firstKey) (row .lastKey) ≠ .gt := by decide +kernel
    have hmeaning :=
      reduced_rows_of_key_range horder hdownwards (by decide) hrow ["other"] ["other"]
    exact (hmeaning.2 rfl ⟨_, hfour⟩).mpr
      ⟨_, ⟨by decide +kernel, by decide +kernel⟩, hfour⟩
  exact ⟨⟨upwards, hupwards, hinside⟩, downwards, hdownwards, hreaching⟩

/-- In decreasing order, a reduced row from one to ten is accepted for a range from five to three,
although a grouped row with the key one, which it covers, is not. -/
theorem reduced_row_beyond_decreasing_range :
    let order : ColumnOrder := fun _ => Collation.compareKey
    let between (first last : String) : Row := fun | .firstKey => first | _ => last
    ∃ q : ViewQuery, viewQuery (.ofList [("descending", .decoded (.bool true)),
          ("endkey", .decoded (.num (.ofUInt64 3))),
          ("startkey", .decoded (.num (.ofUInt64 5)))]) "rows" = .ok q ∧
      Collation.compareKey "1" "10" ≠ .gt ∧
      accepts order (between "1" "10") q.reducedRestrictions [] = true ∧
      Covers (between "1" "10") "1" ∧
      accepts order (fun _ => "1") q.groupRestrictions [] = false := by
  intro order between
  let q : ViewQuery :=
    { ViewQuery.ofView "rows" with
      paging := { Paging.everything with
        descending := true, startKey := some "5", endKey := some "3" } }
  have hcompiles : viewQuery (.ofList [("descending", .decoded (.bool true)),
      ("endkey", .decoded (.num (.ofUInt64 3))),
      ("startkey", .decoded (.num (.ofUInt64 5)))]) "rows" = .ok q :=
    viewQuery_of_range rfl rfl rfl (by decide +kernel)
  have hrow : Collation.compareKey "1" "10" ≠ .gt := by decide +kernel
  exact ⟨q, hcompiles, hrow, by decide +kernel, Sql.covers_firstKey hrow, by decide +kernel⟩

end Options

/-! ### Single keys -/

namespace ViewQuery

/-- In a compiled query a list of keys comes alone. -/
theorem Compiled.keys_alone {q : ViewQuery} (h : q.Compiled) (hne : q.keys ≠ []) :
    q.key = none ∧ q.paging.startKey = none ∧ q.paging.endKey = none := by
  cases h with
  | ofOptions h => exact (consistent_of_viewQuery h).keys_alone hne
  | ofBody h => exact (consistent_of_ofSearch h).keys_alone hne

/-- A reduced row of a single key is accepted exactly if a grouped row with this key is and the key
is equal to every one of several keys. So for a compiled query the two agree on all keys exactly if
its several keys are all equal. -/
theorem reduced_rows_of_single_key {order : ColumnOrder} (horder : CollatesKeys order)
    {q : ViewQuery} (hq : q.Compiled) (bound bound' : List String) :
    (∀ row group : Row, SingleKey row group →
      (accepts order row q.reducedRestrictions bound = true ↔
        accepts order group q.groupRestrictions bound' = true ∧
          ∀ key ∈ q.keys, Collation.compareKey (group .key) key = .eq)) ∧
    ((∀ row group : Row, SingleKey row group →
      (accepts order row q.reducedRestrictions bound = true ↔
        accepts order group q.groupRestrictions bound' = true)) ↔
      ∀ a ∈ q.keys, ∀ b ∈ q.keys, Collation.compareKey a b = .eq) := by
  have hsingle : ∀ row group : Row, SingleKey row group →
      (accepts order row q.reducedRestrictions bound = true ↔
        accepts order group q.groupRestrictions bound' = true ∧
          ∀ key ∈ q.keys, Collation.compareKey (group .key) key = .eq) := by
    intro row group hrow
    rw [q.accepts_reducedRestrictions row bound horder,
      q.accepts_groupRestrictions group bound' horder, hrow.firstKey_eq, hrow.lastKey_eq]
    constructor
    · intro ⟨hstart, hend, hkeys⟩
      have hall : ∀ key ∈ q.keys, Collation.compareKey (group .key) key = .eq :=
        fun key hkey => (hkeys key (.inr hkey)).1
      refine ⟨⟨⟨hstart, hend⟩, fun key hkey => (hkeys key (.inl hkey)).1, fun hne => ?_⟩, hall⟩
      obtain ⟨key, hkey⟩ := List.exists_mem_of_ne_nil q.keys hne
      exact ⟨key, hkey, hall key hkey⟩
    · rintro ⟨⟨hrange, hkey, -⟩, hall⟩
      refine ⟨hrange.fromStart, hrange.toEnd, fun key hone => ?_⟩
      have heq : Collation.compareKey (group .key) key = .eq := hone.elim (hkey key) (hall key)
      exact ⟨heq, heq⟩
  refine ⟨hsingle, fun hagree a ha b hb => ?_, fun hequal row group hrow => ?_⟩
  · -- A list of keys comes alone, so that grouped rows with each of its keys are accepted.
    have hne : q.keys ≠ [] := List.ne_nil_of_mem ha
    obtain ⟨hkey, hstart, hend⟩ := hq.keys_alone hne
    have hgroup : accepts order (fun _ => a) q.groupRestrictions bound' = true := by
      rw [q.accepts_groupRestrictions _ bound' horder]
      refine ⟨⟨by simp [Paging.StartAdmits, hstart], by simp [Paging.EndAdmits, hend]⟩,
        by simp [hkey], fun _ => ⟨a, ha, Collation.compareKey_self a⟩⟩
    have hrow : SingleKey (fun _ => a) (fun _ => a) := ⟨rfl, rfl⟩
    have hreduced := (hagree _ _ hrow).mpr hgroup
    exact ((hsingle _ _ hrow).mp hreduced).2 b hb
  · rw [hsingle row group hrow, and_iff_left_iff_imp,
      q.accepts_groupRestrictions group bound' horder]
    rintro ⟨-, -, hlists⟩ key hkey
    obtain ⟨listed, hlisted, heq⟩ := hlists (List.ne_nil_of_mem hkey)
    rw [TransCmp.congr_left heq]
    exact hequal listed hlisted key hkey

/-- A list of two zeros of different signs is a list of equal keys: grouped and reduced rows of any
single key agree, whatever is bound before. -/
theorem reduced_rows_of_single_key_zeros :
    let order : ColumnOrder := fun _ => Collation.compareKey
    ∃ q : ViewQuery, Options.viewQuery (.ofList [("keys", .decoded (.arr
        [.num (.ofUInt64 0), .num (.float Binary64.zero.neg)]))]) "rows" = .ok q ∧
      q.keys = ["0", "-0.0"] ∧
      ∀ k, accepts order (fun _ => k) q.reducedRestrictions ["other"] = true ↔
        accepts order (fun _ => k) q.groupRestrictions [] = true := by
  intro order
  let q : ViewQuery := { ViewQuery.ofView "rows" with keys := ["0", "-0.0"] }
  have hcompiles : Options.viewQuery (.ofList [("keys", .decoded (.arr
      [.num (.ofUInt64 0), .num (.float Binary64.zero.neg)]))]) "rows" = .ok q := rfl
  have hequal : ∀ a ∈ q.keys, ∀ b ∈ q.keys, Collation.compareKey a b = .eq := by decide +kernel
  have horder : CollatesKeys order := ⟨rfl, rfl, rfl⟩
  have hagree := (reduced_rows_of_single_key horder (.ofOptions hcompiles) ["other"] []).2.mpr
    hequal
  exact ⟨q, hcompiles, rfl, fun k => hagree _ _ ⟨rfl, rfl⟩⟩

/-- With the keys one and two, a grouped row with the key one is accepted and a reduced row of this
key is not. -/
theorem reduced_row_refused_for_another_key :
    let order : ColumnOrder := fun _ => Collation.compareKey
    ∃ q : ViewQuery, Options.viewQuery (.ofList [("keys", .decoded (.arr
        [.num (.ofUInt64 1), .num (.ofUInt64 2)]))]) "rows" = .ok q ∧
      SingleKey (fun _ => "1") (fun _ => "1") ∧
      accepts order (fun _ => "1") q.groupRestrictions [] = true ∧
      accepts order (fun _ => "1") q.reducedRestrictions [] = false := by
  intro order
  let q : ViewQuery := { ViewQuery.ofView "rows" with keys := ["1", "2"] }
  exact ⟨q, rfl, ⟨rfl, rfl⟩, by decide +kernel, by decide +kernel⟩

end ViewQuery

end DocQuery
