import DocQuery.Proofs.Collation.Key
import DocQuery.Proofs.Json.Decoded
import DocQuery.Proofs.View.Compile
import DocQuery.Proofs.View.Where

/-!
# Queries whose keys exclude each other

A query is refused if no key satisfies its range and its key. An accepted query whose end key is
included is satisfied by one of the keys given: by the key if there is one, else by the start key,
else by the end key; only a list of keys comes without these.
-/

namespace DocQuery

open Std

/-- Keys are compared by collation, in the direction of iteration. -/
theorem Paging.compareKey_eq (p : Paging) (a b : String) :
    p.compareKey a b = directed p.descending (Collation.compareKey a b) := rfl

instance (p : Paging) : TransCmp p.compareKey := by
  cases hd : p.descending with
  | false =>
    have h : p.compareKey = Collation.compareKey := by
      funext a b
      rw [p.compareKey_eq, hd]
      rfl
    rw [h]
    infer_instance
  | true =>
    have h : p.compareKey = fun a b => Collation.compareKey b a := by
      funext a b
      rw [p.compareKey_eq, hd]
      exact OrientedCmp.eq_swap.symm
    rw [h]
    exact TransCmp.opposite

/-- Whether a text is JSON: the text of a value, or one that decodes. -/
def Json.IsText (s : String) : Prop :=
  (∃ value : Json, s = value.text) ∨ ∃ value, Json.decodeText s = .ok value

namespace ViewQuery

/-- Whether a key lies in the range of a query, both ends included, and is equal to its key. -/
structure Admits (q : ViewQuery) (k : String) : Prop where
  notBefore : ∀ first, q.paging.startKey = some first →
    directed q.paging.descending (Collation.compareKey k first) ≠ .lt
  notAfter : ∀ last, q.paging.endKey = some last →
    directed q.paging.descending (Collation.compareKey k last) ≠ .gt
  equal : ∀ key, q.key = some key → Collation.compareKey k key = .eq

/-- Whether a key is equal to one of the keys of a query, if there are any. -/
def Lists (q : ViewQuery) (k : String) : Prop :=
  q.keys ≠ [] → ∃ key ∈ q.keys, Collation.compareKey k key = .eq

/-- Whether a query has a list of keys and another restriction of the key. -/
def KeysClash (q : ViewQuery) : Prop :=
  q.keys ≠ [] ∧ (q.key ≠ none ∨ q.paging.startKey ≠ none ∨ q.paging.endKey ≠ none)

end ViewQuery

/-- Whether an error says that no rows can match. -/
def OptionError.StatesEmptyRange (e : OptionError) : Prop :=
  ∃ hint, e.message = "no rows can match your key range, " ++ hint

namespace Paging

/-- A range is refused if its start key lies beyond its end key. -/
theorem validate_eq_ok_iff (p : Paging) :
    p.validate = .ok () ↔ ∀ first last, p.startKey = some first → p.endKey = some last →
      p.compareKey first last ≠ .gt := by
  unfold validate
  cases p.startKey <;> cases p.endKey <;> simp

/-- The only reason to refuse a range is that it is empty. -/
theorem eq_of_validate_eq_error {p : Paging} {e : OptionError} (h : p.validate = .error e) :
    e = .inconsistent (.range !p.descending) := by
  unfold validate at h
  split at h
  · split at h
    · cases h
      rfl
    · cases h
  · cases h

/-- A range that is refused has a start key beyond its end key. -/
theorem exists_beyond_of_validate_eq_error {p : Paging} {e : OptionError}
    (h : p.validate = .error e) :
    ∃ first last, p.startKey = some first ∧ p.endKey = some last ∧
      p.compareKey first last = .gt := by
  unfold validate at h
  split at h
  · rename_i first last hfirst hlast
    split at h
    · exact ⟨first, last, hfirst, hlast, ‹_›⟩
    · cases h
  · cases h

end Paging

namespace ViewQuery

/-- A key is refused if it lies before the start key or after the end key. -/
theorem validateKey_eq_ok_iff (p : Paging) (key : String) :
    validateKey p key = .ok () ↔
      (∀ first, p.startKey = some first → p.compareKey key first ≠ .lt) ∧
      (∀ last, p.endKey = some last → p.compareKey key last ≠ .gt) := by
  have hstart : (p.startKey.any fun first => p.compareKey key first = .lt) = false ↔
      ∀ first, p.startKey = some first → p.compareKey key first ≠ .lt := by
    cases p.startKey <;> simp
  have hend : (p.endKey.any fun last => p.compareKey key last = .gt) = false ↔
      ∀ last, p.endKey = some last → p.compareKey key last ≠ .gt := by
    cases p.endKey <;> simp
  rw [← hstart, ← hend]
  unfold validateKey
  cases p.startKey.any fun first => p.compareKey key first = .lt <;>
    cases p.endKey.any fun last => p.compareKey key last = .gt <;>
    cases p.startKey <;> cases p.endKey <;> simp

/-- A key is refused with a message about an empty range. -/
theorem statesEmptyRange_of_validateKey {p : Paging} {key : String} {e : OptionError}
    (h : validateKey p key = .error e) : e.StatesEmptyRange := by
  unfold validateKey at h
  dsimp only at h
  split_ifs at h <;> cases h
  · exact ⟨_, rfl⟩
  · exact ⟨_, String.append_assoc⟩
  · exact ⟨_, String.append_assoc⟩

/-- Of a key that is refused, the other direction is advised only if one end of the range is
open. -/
theorem validateKey_eq_error_cases {p : Paging} {key : String} {e : OptionError}
    (h : validateKey p key = .error e) :
    e = .inconsistent .keyOutside ∨
    (e = .inconsistent (.keyBeforeStart !p.descending) ∧ p.endKey = none ∧
      ∃ first, p.startKey = some first ∧ p.compareKey key first = .lt) ∨
    (e = .inconsistent (.keyAfterEnd !p.descending) ∧ p.startKey = none ∧
      ∃ last, p.endKey = some last ∧ p.compareKey key last = .gt) := by
  unfold validateKey at h
  dsimp only at h
  split_ifs at h with houtside hbefore hafter <;> cases h
  · exact .inl rfl
  · rw [hbefore, Bool.true_and, Bool.or_eq_true, not_or, Option.not_isSome_iff_eq_none] at houtside
    refine .inr (.inl ⟨rfl, houtside.1, ?_⟩)
    cases hstart : p.startKey with
    | none => simp [hstart] at hbefore
    | some first => exact ⟨first, rfl, by simpa [hstart] using hbefore⟩
  · rw [hafter, Bool.true_and, Bool.or_eq_true, not_or, Option.not_isSome_iff_eq_none] at houtside
    refine .inr (.inr ⟨rfl, houtside.2, ?_⟩)
    cases hend : p.endKey with
    | none => simp [hend] at hafter
    | some last => exact ⟨last, rfl, by simpa [hend] using hafter⟩

/-- The clash of keys is found before the range and the key are looked at. -/
theorem validate_of_keysClash {q : ViewQuery} (h : q.KeysClash) :
    q.validate = .error (.inconsistent .keys) := by
  obtain ⟨hkeys, hothers⟩ := h
  unfold validate
  rw [if_pos]
  · rfl
  · simpa [Option.isSome_iff_ne_none, or_assoc] using And.intro hkeys hothers

/-- Unless keys clash, the range is checked and then the key. -/
theorem validate_of_not_keysClash {q : ViewQuery} (h : ¬q.KeysClash) :
    q.validate = q.paging.validate >>= fun _ =>
      match q.key with
      | some key => validateKey q.paging key
      | none => .ok () := by
  unfold validate
  rw [if_neg]
  · cases q.key <;> rfl
  · simpa [KeysClash, Option.isSome_iff_ne_none, or_assoc] using h

/-- A query is accepted if its keys do not clash and its range and its key pass their checks. -/
theorem validate_eq_ok_iff (q : ViewQuery) :
    q.validate = .ok () ↔ ¬q.KeysClash ∧ q.paging.validate = .ok () ∧
      ∀ key, q.key = some key → validateKey q.paging key = .ok () := by
  by_cases hclash : q.KeysClash
  · simp [validate_of_keysClash hclash, hclash]
  · rw [validate_of_not_keysClash hclash, bind_eq_ok_iff]
    constructor
    · rintro ⟨⟨⟩, hrange, hkey⟩
      refine ⟨hclash, hrange, fun key h => ?_⟩
      rwa [h] at hkey
    · rintro ⟨-, hrange, hkey⟩
      refine ⟨(), hrange, ?_⟩
      split
      · exact hkey _ ‹_›
      · rfl

/-- A query whose keys do not clash is refused for its range or for its key. -/
theorem validate_eq_error_cases {q : ViewQuery} {e : OptionError} (h : ¬q.KeysClash)
    (he : q.validate = .error e) :
    q.paging.validate = .error e ∨
      ∃ key, q.key = some key ∧ validateKey q.paging key = .error e := by
  rw [validate_of_not_keysClash h, bind_eq_error_iff] at he
  refine he.imp_right fun ⟨_, _, hkey⟩ => ?_
  split at hkey
  · exact ⟨_, ‹_›, hkey⟩
  · cases hkey

/-- An error of the range or the key says that no rows can match. -/
theorem statesEmptyRange_of_not_keysClash {q : ViewQuery} {e : OptionError} (h : ¬q.KeysClash)
    (he : q.validate = .error e) : e.StatesEmptyRange := by
  obtain hp | ⟨key, -, hkey⟩ := validate_eq_error_cases h he
  · rw [Paging.eq_of_validate_eq_error hp]
    exact ⟨_, String.append_assoc⟩
  · exact statesEmptyRange_of_validateKey hkey

/-- The range and the key of a query pass their checks if some key is admitted. -/
theorem Admits.accepted {q : ViewQuery} {k : String} (h : q.Admits k) :
    q.paging.validate = .ok () ∧ ∀ key, q.key = some key → validateKey q.paging key = .ok () := by
  obtain ⟨hbefore, hafter, hequal⟩ := h
  simp only [← Paging.compareKey_eq] at hbefore hafter
  have hsame : ∀ key, q.key = some key → q.paging.compareKey k key = .eq := by
    intro key hkey
    rw [Paging.compareKey_eq, hequal key hkey]
    cases q.paging.descending <;> rfl
  refine ⟨(Paging.validate_eq_ok_iff _).mpr fun first last hfirst hlast => ?_,
    fun key hkey => (validateKey_eq_ok_iff _ key).mpr ⟨fun first hfirst => ?_,
      fun last hlast => ?_⟩⟩
  · -- The admitted key lies between the two ends.
    have hfirst' : (q.paging.compareKey first k).isLE :=
      OrientedCmp.isGE_iff_isLE.mp (Ordering.ne_lt_iff_isGE.mp (hbefore first hfirst))
    have hlast' := Ordering.ne_gt_iff_isLE.mp (hafter last hlast)
    exact Ordering.ne_gt_iff_isLE.mpr (TransCmp.isLE_trans hfirst' hlast')
  · rw [← TransCmp.congr_left (hsame key hkey)]
    exact hbefore first hfirst
  · rw [← TransCmp.congr_left (hsame key hkey)]
    exact hafter last hlast

end ViewQuery

namespace Options

/-- A key given by an option is a JSON text. -/
theorem isText_of_keyOption {o : Options} {names : List String} {key : String}
    (h : o.keyOption names = .ok (some key)) : Json.IsText key := by
  obtain h | ⟨name, param, h⟩ := readFirst_eq_ok h
  · cases h
  · obtain ⟨read, hread, h⟩ := map_eq_ok_iff.mp h
    cases h
    cases param with
    | decoded value => exact .inl ⟨value, (Except.ok.inj hread).symm⟩
    | encoded text =>
      simp only [readKey] at hread
      split at hread
      · rename_i value hvalue
        cases hread
        exact .inr ⟨value, hvalue⟩
      · cases hread

/-- A list of keys consists of the texts of the items of an array, decoded or not. -/
theorem readKeys_eq_ok_iff {param : Param} {keys : List String} :
    readKeys param = .ok keys ↔
      ∃ items, param.decode = .ok (.arr items) ∧ items.map Json.text = keys := by
  cases param with
  | decoded value =>
    cases value with
    | arr items => simp [readKeys, Param.decode, Json.asItems]
    | _ =>
      constructor
      · intro h
        cases h
      · rintro ⟨items, hdecode, -⟩
        cases hdecode
  | encoded text =>
    simp only [readKeys, Param.decode, ← Json.decodeArray_eq_ok_iff]
    cases Json.decodeArray text with
    | ok items => simp
    | error error =>
      constructor
      · intro h
        cases h
      · rintro ⟨items, h, -⟩
        cases h

/-- The keys of a list are the texts of its items. -/
theorem isText_of_keys {o : Options} {keys : List String} (h : o.keys = .ok keys) :
    ∀ key ∈ keys, Json.IsText key := by
  obtain rfl | ⟨_, param, h⟩ := readFirst_eq_ok h
  · simp
  · obtain ⟨items, -, rfl⟩ := readKeys_eq_ok_iff.mp h
    intro key hkey
    obtain ⟨item, -, rfl⟩ := List.mem_map.mp hkey
    exact .inl ⟨item, rfl⟩

end Options

namespace ViewQuery

/-- A query as it is put together from options, before its keys are checked: of a view, or of a
search for documents, which restricts no key. -/
inductive Assembled : ViewQuery → Prop
  | ofView {o : Options} {view : String} {q : ViewQuery} (h : o.assembleQuery view = .ok q) :
      Assembled q
  | ofSearch (conflicts : Bool) (search : DocumentSearch) :
      Assembled { ViewQuery.ofView ViewName.allDocs with
        includeDocs := true, conflicts, search := some search }

/-- Every key of an assembled query is a JSON text. -/
theorem Assembled.isText {q : ViewQuery} (h : q.Assembled) :
    (∀ key, q.paging.startKey = some key → Json.IsText key) ∧
    (∀ key, q.paging.endKey = some key → Json.IsText key) ∧
    (∀ key, q.key = some key → Json.IsText key) ∧
    (∀ key ∈ q.keys, Json.IsText key) := by
  cases h with
  | ofView h =>
    have hq := Options.assembleQuery_eq_ok_iff.mp h
    exact ⟨fun key hkey => Options.isText_of_keyOption (hkey ▸ hq.paging.startKey),
      fun key hkey => Options.isText_of_keyOption (hkey ▸ hq.paging.endKey),
      fun key hkey => Options.isText_of_keyOption (hkey ▸ hq.key), Options.isText_of_keys hq.keys⟩
  | ofSearch => exact ⟨nofun, nofun, nofun, nofun⟩

/-- A query that is accepted admits its key. -/
theorem admits_key {q : ViewQuery} (h : q.validate = .ok ()) {key : String}
    (hkey : q.key = some key) : q.Admits key := by
  have hcheck := ((validate_eq_ok_iff q).mp h).2.2 key hkey
  obtain ⟨hbefore, hafter⟩ := (validateKey_eq_ok_iff _ key).mp hcheck
  refine ⟨hbefore, hafter, fun other hother => ?_⟩
  cases hkey.symm.trans hother
  exact Collation.compareKey_self key

/-- A query that is accepted and has no key admits its start key. -/
theorem admits_startKey {q : ViewQuery} (h : q.validate = .ok ()) (hkey : q.key = none)
    {first : String} (hfirst : q.paging.startKey = some first) : q.Admits first := by
  have hrange := (Paging.validate_eq_ok_iff _).mp ((validate_eq_ok_iff q).mp h).2.1
  refine ⟨fun other hother => ?_, fun last hlast => hrange first last hfirst hlast, by simp [hkey]⟩
  cases hfirst.symm.trans hother
  rw [Collation.compareKey_self]
  cases q.paging.descending <;> decide

/-- A query without a key and a start key admits its end key. -/
theorem admits_endKey {q : ViewQuery} (hkey : q.key = none) (hstart : q.paging.startKey = none)
    {last : String} (hlast : q.paging.endKey = some last) : q.Admits last := by
  refine ⟨by simp [hstart], fun other hother => ?_, by simp [hkey]⟩
  cases hlast.symm.trans hother
  rw [Collation.compareKey_self]
  cases q.paging.descending <;> decide

/-- A query without a key and a range admits every key. -/
theorem admits_of_none {q : ViewQuery} (hkey : q.key = none) (hstart : q.paging.startKey = none)
    (hend : q.paging.endKey = none) (k : String) : q.Admits k :=
  ⟨by simp [hstart], by simp [hend], by simp [hkey]⟩

/-- An accepted query is satisfied by one of its keys, or by any key if it has none. -/
theorem exists_admitted {q : ViewQuery} (hassembled : q.Assembled) (h : q.validate = .ok ()) :
    ∃ k, Json.IsText k ∧ q.Admits k ∧ q.Lists k := by
  obtain ⟨hstartText, hendText, hkeyText, hkeysText⟩ := hassembled.isText
  have hclash := ((validate_eq_ok_iff q).mp h).1
  by_cases hkeys : q.keys = []
  · have hlists : ∀ k, q.Lists k := fun k hne => absurd hkeys hne
    cases hkey : q.key with
    | some key => exact ⟨key, hkeyText key hkey, admits_key h hkey, hlists key⟩
    | none =>
      cases hstart : q.paging.startKey with
      | some first =>
        exact ⟨first, hstartText first hstart, admits_startKey h hkey hstart, hlists first⟩
      | none =>
        cases hend : q.paging.endKey with
        | some last =>
          exact ⟨last, hendText last hend, admits_endKey hkey hstart hend, hlists last⟩
        | none =>
          exact ⟨"null", .inl ⟨.null, rfl⟩, admits_of_none hkey hstart hend _, hlists _⟩
  · -- A list of keys comes alone.
    obtain ⟨key, rest, hlist⟩ := List.exists_cons_of_ne_nil hkeys
    have hmem : key ∈ q.keys := hlist ▸ List.mem_cons_self
    have halone : q.key = none ∧ q.paging.startKey = none ∧ q.paging.endKey = none := by
      simpa [KeysClash, hkeys] using hclash
    exact ⟨key, hkeysText key hmem, admits_of_none halone.1 halone.2.1 halone.2.2 key,
      fun _ => ⟨key, hmem, Collation.compareKey_self key⟩⟩

/-- The clash of keys is not taken for an empty range. -/
theorem not_statesEmptyRange_keys : ¬(OptionError.inconsistent .keys).StatesEmptyRange := by
  rintro ⟨hint, h⟩
  have hhead := congrArg (fun s : String => s.toList.head?) h
  simp [OptionError.message, Inconsistent.message] at hhead

/-- Exactly the empty ranges are refused. An error that says that no rows can match is raised only
if no key at all satisfies the range and the key; an accepted query is satisfied, its list of keys
included, by some JSON text. The only other error is that a list of keys comes with a key, a start
key or an end key. -/
theorem validate_refuses_empty_ranges {q : ViewQuery} (h : q.Assembled) :
    (∀ e, q.validate = .error e → e.StatesEmptyRange → ∀ k, ¬q.Admits k) ∧
    (q.validate = .ok () → ∃ k, Json.IsText k ∧ q.Admits k ∧ q.Lists k) ∧
    (∀ e, q.validate = .error e → e.StatesEmptyRange ∨ e = .inconsistent .keys) ∧
    (q.validate = .error (.inconsistent .keys) ↔
      q.keys ≠ [] ∧ (q.key ≠ none ∨ q.paging.startKey ≠ none ∨ q.paging.endKey ≠ none)) := by
  refine ⟨fun e he hempty k hk => ?_, exists_admitted h, fun e he => ?_, fun he => ?_,
    validate_of_keysClash⟩
  · by_cases hclash : q.KeysClash
    · cases he.symm.trans (validate_of_keysClash hclash)
      exact not_statesEmptyRange_keys hempty
    · cases he.symm.trans ((validate_eq_ok_iff q).mpr ⟨hclash, hk.accepted⟩)
  · by_cases hclash : q.KeysClash
    · cases he.symm.trans (validate_of_keysClash hclash)
      exact .inr rfl
    · exact .inl (statesEmptyRange_of_not_keysClash hclash he)
  · by_contra hclash
    exact not_statesEmptyRange_keys (statesEmptyRange_of_not_keysClash hclash he)

/-- A range from false to true is refused in decreasing order, and no key lies in it. -/
theorem validate_refuses_empty_ranges_descending :
    ∃ q : ViewQuery,
      Options.assembleQuery (.ofList [("descending", .decoded (.bool true)),
        ("startkey", .decoded (.bool false)), ("endkey", .decoded (.bool true))]) "rows" = .ok q ∧
      q.validate = .error (.inconsistent (.range false)) ∧ ∀ k, ¬q.Admits k := by
  let q : ViewQuery :=
    { ViewQuery.ofView "rows" with
      paging := { Paging.everything with
        descending := true, startKey := some "false", endKey := some "true" } }
  have hassembled : Options.assembleQuery (.ofList [("descending", .decoded (.bool true)),
      ("startkey", .decoded (.bool false)), ("endkey", .decoded (.bool true))]) "rows" = .ok q :=
    rfl
  have hbeyond : q.paging.compareKey "false" "true" = .gt := by decide +kernel
  have hpaging : q.paging.validate = .error (.inconsistent (.range false)) := if_pos hbeyond
  have hrefused : q.validate = .error (.inconsistent (.range false)) := by
    unfold validate
    rw [hpaging]
    rfl
  exact ⟨q, hassembled, hrefused,
    (validate_refuses_empty_ranges (.ofView hassembled)).1 _ hrefused ⟨_, String.append_assoc⟩⟩

end ViewQuery

end DocQuery
