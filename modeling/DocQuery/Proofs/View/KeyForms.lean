import DocQuery.Proofs.Json.ReadBack
import DocQuery.Proofs.View.Agreement
import DocQuery.Proofs.View.Validation

/-!
# Keys as text and as values

A key may be given as JSON text or as the value that the text decodes to. A text is kept as it is,
with its blanks, its escapes and the order of its members, and a value is written compactly; where
the numbers are integers, the two texts decode to one value, so no comparison of keys tells them
apart, and a request comes to the same verdict with either.
-/

namespace DocQuery

open Std

/-- Two keys that may be absent are equal in the order of keys, or both absent. -/
def KeysEqual : Option String → Option String → Prop :=
  Option.Rel fun a b => Collation.compareKey a b = .eq

/-- A key is equal to itself, and so is an absent one. -/
theorem KeysEqual.refl (key : Option String) : KeysEqual key key := by
  cases key with
  | none => exact .none
  | some key => exact .some (Collation.compareKey_self key)

/-- Of equal keys, both are present or both are absent. -/
theorem KeysEqual.isSome_eq {a b : Option String} (h : KeysEqual a b) : a.isSome = b.isSome := by
  cases h <;> rfl

/-- A test that cannot tell equal keys apart has the same outcome on both. -/
theorem KeysEqual.any_eq {a b : Option String} (h : KeysEqual a b) {f g : String → Bool}
    (hfg : ∀ x y, Collation.compareKey x y = .eq → f x = g y) : a.any f = b.any g := by
  cases h with
  | none => rfl
  | some hxy => exact hfg _ _ hxy

/-- The compact text of a decoded value is equal to the text that it was decoded from. -/
theorem compareKey_text_of_decodeText {text : String} {value : Json}
    (h : Json.decodeText text = .ok value) (hint : ∀ x, ¬value.Contains (.float x)) :
    Collation.compareKey text value.text = .eq := by
  have htext := Json.decode_text (Json.wellFormed_of_decode h) hint (Json.depth_le_of_decode h)
  have hcompare := Collation.compareEncoded_of_decode h htext
  rw [Collation.compareKey, hcompare]
  exact ReflCmp.compare_self

section Checks

variable {p : Paging} {startKey startKey' endKey endKey' key key' : Option String}

/-- Equal keys take the same place in the direction of iteration. -/
theorem Paging.compareKey_congr {a a' b b' : String} (p : Paging)
    (ha : Collation.compareKey a a' = .eq) (hb : Collation.compareKey b b' = .eq) :
    p.compareKey a b = p.compareKey a' b' := by
  rw [p.compareKey_eq, p.compareKey_eq, TransCmp.congr_left ha, TransCmp.congr_right hb]

/-- A range is checked alike when its ends are replaced by equal ones. -/
theorem Paging.validate_congr (hstart : KeysEqual p.startKey startKey)
    (hend : KeysEqual p.endKey endKey) :
    p.validate = { p with startKey, endKey : Paging }.validate := by
  obtain ⟨limit, skip, descending, first, last, inclusiveEnd⟩ := p
  cases hstart with
  | none => rfl
  | some hfirst =>
    cases hend with
    | none => rfl
    | some hlast =>
      unfold validate
      dsimp only
      rw [compareKey_congr _ hfirst hlast]
      rfl

/-- A key is checked alike when it and the ends of the range are replaced by equal ones. -/
theorem ViewQuery.validateKey_congr {a b : String} (hkey : Collation.compareKey a b = .eq)
    (hstart : KeysEqual p.startKey startKey) (hend : KeysEqual p.endKey endKey) :
    validateKey p a = validateKey { p with startKey, endKey } b := by
  have hbefore : (p.startKey.any fun first => p.compareKey a first = .lt) =
      startKey.any fun first => { p with startKey, endKey : Paging }.compareKey b first = .lt :=
    hstart.any_eq fun x y hxy => by rw [p.compareKey_congr hkey hxy]; rfl
  have hafter : (p.endKey.any fun last => p.compareKey a last = .gt) =
      endKey.any fun last => { p with startKey, endKey : Paging }.compareKey b last = .gt :=
    hend.any_eq fun x y hxy => by rw [p.compareKey_congr hkey hxy]; rfl
  unfold validateKey
  rw [hbefore, hafter, hstart.isSome_eq, hend.isSome_eq]

/-- A query is checked alike when its key and the ends of its range are replaced by equal ones. -/
theorem ViewQuery.validate_congr {q : ViewQuery} (hstart : KeysEqual q.paging.startKey startKey)
    (hend : KeysEqual q.paging.endKey endKey) (hkey : KeysEqual q.key key) :
    q.validate =
      { q with paging := { q.paging with startKey, endKey }, key : ViewQuery }.validate := by
  have hpaging := Paging.validate_congr hstart hend
  have hcheck : ∀ {a b : String}, Collation.compareKey a b = .eq →
      validateKey q.paging a = validateKey { q.paging with startKey, endKey } b :=
    fun h => validateKey_congr h hstart hend
  unfold validate
  dsimp only
  rw [hkey.isSome_eq, hstart.isSome_eq, hend.isSome_eq, hpaging]
  cases hq : q.key with
  | none =>
    rw [hq] at hkey
    cases hkey
    rfl
  | some a =>
    rw [hq] at hkey
    cases hkey with
    | some h =>
      dsimp only
      rw [hcheck h]

end Checks

namespace Options

/-- The names that keys are read from. -/
def keyNames : List String := ["startkey", "start_key", "endkey", "end_key", "key", "keys"]

/-- The value of an option is kept, or it is a key given as text and the value that this decodes to
takes its place. The numbers of the value are integers, and a list of keys is an array. -/
inductive Redecoded (name : String) : Param → Param → Prop
  | kept (param : Param) : Redecoded name param param
  | decoded {text : String} {value : Json} (isKey : name ∈ keyNames)
      (decodes : Json.decodeText text = .ok value) (hint : ∀ x, ¬value.Contains (.float x))
      (isArray : name = "keys" → value.kind = .array) :
      Redecoded name (.encoded text) (.decoded value)

/-- Two requests have the same options, but for keys given as text in the one and decoded in the
other. -/
def Redecodes (o o' : Options) : Prop :=
  ∀ name, Option.Rel (Redecoded name) (o.get? name) (o'.get? name)

variable {o o' : Options} {view : String}

/-- Every value may be kept. -/
theorem Redecodes.refl (o : Options) : Redecodes o o := by
  intro name
  cases o.get? name with
  | none => exact .none
  | some param => exact .some (.kept param)

/-- Decoding one of the keys. -/
theorem Redecodes.insert (h : Redecodes o o') {name text : String} {value : Json}
    (hget : o.get? name = some (.encoded text)) (isKey : name ∈ keyNames)
    (decodes : Json.decodeText text = .ok value) (hint : ∀ x, ¬value.Contains (.float x))
    (isArray : name = "keys" → value.kind = .array) :
    Redecodes o (o'.insert name (.decoded value)) := by
  intro other
  by_cases hother : other = name
  · rw [hother, hget, KeyMap.get?_insert_self]
    exact .some (.decoded isKey decodes hint isArray)
  · rw [KeyMap.get?_insert_ne _ hother]
    exact h other

/-- Decoding keys leaves the options that are not keys as they are. -/
theorem Redecodes.agreeApartFrom (h : Redecodes o o') : AgreeApartFrom keyNames o o' := by
  intro name hname
  match o.get? name, o'.get? name, h name with
  | _, _, .none => rfl
  | _, _, .some (.kept _) => rfl
  | _, _, .some (.decoded isKey _ _ _) => exact absurd isKey hname

/-- The option that counts is the same, and its value is redecoded. -/
theorem Redecodes.first? (h : Redecodes o o') (names : List String) :
    Option.Rel (fun found found' => found.1 = found'.1 ∧ Redecoded found.1 found.2 found'.2)
      (o.first? names) (o'.first? names) := by
  unfold Options.first?
  induction names with
  | nil => exact .none
  | cons name rest ih =>
    rw [List.findSome?_cons, List.findSome?_cons]
    match o.get? name, o'.get? name, h name with
    | _, _, .none => exact ih
    | _, _, .some hparam => exact .some ⟨rfl, hparam⟩

/-- A key is read from both requests or from none, and what is read is equal. -/
theorem Redecodes.sameVerdict_keyOption (h : Redecodes o o') (names : List String) :
    SameVerdict KeysEqual (o.keyOption names) (o'.keyOption names) := by
  unfold keyOption readFirst
  match o.first? names, o'.first? names, h.first? names with
  | _, _, .none => exact .accepted .none
  | some (name, param), some (_, param'), .some ⟨rfl, hparam⟩ =>
    cases hparam with
    | kept => exact .refl KeysEqual.refl _
    | @decoded text value _ decodes hint =>
      have hread : readKey name (.encoded text) = .ok text := by simp only [readKey, decodes]
      dsimp only
      rw [hread]
      exact .accepted (.some (compareKey_text_of_decodeText decodes hint))

/-- The items of an array are listed alike, whether it is decoded or not. -/
theorem readKeys_eq_of_decodeText {text : String} {value : Json}
    (h : Json.decodeText text = .ok value) (harray : value.kind = .array) :
    readKeys (.encoded text) = readKeys (.decoded value) := by
  cases value with
  | arr items => exact readKeys_eq_ok_iff.mpr ⟨items, h, rfl⟩
  | _ => cases harray

/-- The lists of keys are the same. -/
theorem Redecodes.keys_eq (h : Redecodes o o') : o.keys = o'.keys := by
  unfold keys read readFirst Options.first?
  rw [List.findSome?_singleton, List.findSome?_singleton]
  match o.get? "keys", o'.get? "keys", h "keys" with
  | _, _, .none => rfl
  | _, _, .some (.kept _) => rfl
  | _, _, .some (.decoded _ decodes _ isArray) =>
    exact readKeys_eq_of_decodeText decodes (isArray rfl)

/-- Whether rows are sorted does not depend on the form of keys. -/
theorem Redecodes.sorted_eq (h : Redecodes o o') : o.sorted = o'.sorted :=
  (h.agreeApartFrom.agreeOn (by decide)).sorted_eq

/-- Keys given as text and decoded ones are interchangeable: if keys that are given as text are
replaced by the values that they decode to, whose numbers are integers, a view is queried with the
same verdict. A request is refused for the same reason as before, and one that compiles gives a
query that differs in its key and the ends of its range alone, which are equal in the order of keys;
its list of keys is the same. -/
theorem decoded_keys_interchangeable (h : Redecodes o o') (view : String) :
    (∀ e, o.viewQuery view = .error e ↔ o'.viewQuery view = .error e) ∧
    ∀ q, o.viewQuery view = .ok q → ∃ startKey endKey key,
      o'.viewQuery view =
        .ok { q with paging := { q.paging with startKey, endKey }, key : ViewQuery } ∧
      KeysEqual q.paging.startKey startKey ∧ KeysEqual q.paging.endKey endKey ∧
      KeysEqual q.key key := by
  have hagree := h.agreeApartFrom
  have hrange : AgreeApartFrom rangeNames o o' := hagree.mono (by decide)
  have hassemble := hrange.sameVerdict_assembleQuery (.of_eq (hagree.read_eq (by decide) _ _))
    (h.sameVerdict_keyOption _) (h.sameVerdict_keyOption _) (h.sameVerdict_keyOption _)
    (.of_eq h.keys_eq) (.of_eq h.sorted_eq) view
  have hverdict : SameVerdict (fun q q' => ∃ startKey endKey key,
      q' = { q with paging := { q.paging with startKey, endKey }, key : ViewQuery } ∧
      KeysEqual q.paging.startKey startKey ∧ KeysEqual q.paging.endKey endKey ∧
      KeysEqual q.key key) (o.viewQuery view) (o'.viewQuery view) := by
    rw [viewQuery_eq, viewQuery_eq]
    refine hassemble.bind fun q q' hq => ?_
    obtain ⟨_, startKey, endKey, key, _, _, rfl, hstart, hend, hkey, rfl, rfl, rfl⟩ := hq
    refine .bind_eq (ViewQuery.validate_congr hstart hend hkey) fun _ => .accepted ?_
    exact ⟨startKey, endKey, key, rfl, hstart, hend, hkey⟩
  refine ⟨fun e => hverdict.error_iff, fun q hq => ?_⟩
  obtain ⟨_, hq', startKey, endKey, key, rfl, hkeys⟩ := hverdict.exists_ok hq
  exact ⟨startKey, endKey, key, hq', hkeys⟩

/-- The text of a start key with blanks and an escape, beside an end key that is decoded. -/
theorem decoded_keys_interchangeable_escaped :
    let value : Json := .arr [.str "a"]
    let o : Options := KeyMap.insert (.ofList [("end_key", .decoded value)]) "startkey"
      (.encoded "[ \"\\u0061\" ]")
    let o' : Options := o.insert "startkey" (.decoded value)
    o.Redecodes o' ∧ ∃ q, o.viewQuery "rows" = .ok q ∧ ∃ startKey endKey key,
      o'.viewQuery "rows" =
        .ok { q with paging := { q.paging with startKey, endKey }, key : ViewQuery } ∧
      KeysEqual q.paging.startKey startKey ∧ KeysEqual q.paging.endKey endKey ∧
      KeysEqual q.key key := by
  intro value o o'
  have hdecode : Json.decodeText "[ \"\\u0061\" ]" = .ok value :=
    Json.decodeText_eq_ok_of_text (by decide +kernel)
  have hint : ∀ x, ¬(Json.arr [.str "a"]).Contains (.float x) := by
    intro x h
    cases h with
    | item mem h =>
      cases List.mem_singleton.mp mem
      cases h
  have hget : o.get? "startkey" = some (.encoded "[ \"\\u0061\" ]") :=
    KeyMap.get?_insert_self ..
  have hredecodes : o.Redecodes o' :=
    (Redecodes.refl o).insert hget (by decide) hdecode hint nofun
  obtain ⟨q, hq⟩ : ∃ q, o.viewQuery "rows" = .ok q := exists_eq_ok (by decide +kernel)
  exact ⟨hredecodes, q, hq, (decoded_keys_interchangeable hredecodes "rows").2 q hq⟩

end Options

end DocQuery
