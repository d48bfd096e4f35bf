import DocQuery.Proofs.View.Agreement
import DocQuery.Proofs.View.Validation

/-!
# What the errors of empty ranges advise

An empty range is refused with the advice to turn the direction, or to exchange the two ends. Unless
both ends come with a key, a request that follows the advice compiles: in the order of keys, a
strict step is turned around along with the direction, and an end that is not given excludes no key.
-/

namespace DocQuery

open Std

namespace Inconsistent

/-- Whether a message ends in the advice to set a direction. -/
def AdvisesDirection (cause : Inconsistent) (descending : Bool) : Prop :=
  ("set descending=" ++ boolText descending).toList <:+ cause.message.toList

/-- Whether a message advises to exchange the start key and the end key. -/
def AdvisesReversal (cause : Inconsistent) : Prop :=
  "reverse your start_key and end_key".toList <:+: cause.message.toList

instance (cause : Inconsistent) (descending : Bool) :
    Decidable (cause.AdvisesDirection descending) :=
  inferInstanceAs (Decidable (_ <:+ _))

instance (cause : Inconsistent) : Decidable cause.AdvisesReversal :=
  inferInstanceAs (Decidable (_ <:+: _))

/-- The texts of the two booleans are not suffixes of one text. -/
theorem eq_of_boolText_suffix {b b' : Bool} {s : List Char} (h : (boolText b).toList <:+ s)
    (h' : (boolText b').toList <:+ s) : b = b' := by
  obtain h | h := List.suffix_or_suffix_of_suffix h h' <;> clear * - h <;> revert b b' <;>
    decide +kernel

/-- Which messages advise to set a direction. -/
theorem AdvisesDirection.cases {cause : Inconsistent} {descending : Bool}
    (h : cause.AdvisesDirection descending) :
    cause = .range descending ∨ cause = .keyBeforeStart descending ∨
      cause = .keyAfterEnd descending := by
  have hbool : (boolText descending).toList <:+ cause.message.toList := by
    rw [AdvisesDirection, String.toList_append] at h
    exact (List.suffix_append _ _).trans h
  cases cause with
  | range b | keyBeforeStart b | keyAfterEnd b =>
    rw [message, String.toList_append] at hbool
    cases eq_of_boolText_suffix hbool (List.suffix_append _ _)
    simp
  | _ => cases descending <;> exact absurd hbool (by decide +kernel)

/-- A direction is advised only where keys are checked. -/
theorem AdvisesDirection.not_beforeKeys {cause : Inconsistent} {descending : Bool}
    (h : cause.AdvisesDirection descending) : ¬Options.BeforeKeys (.inconsistent cause) := by
  obtain rfl | rfl | rfl := h.cases <;> simp [Options.BeforeKeys]

/-- Only the message about a range advises to exchange its ends. -/
theorem AdvisesReversal.exists_range {cause : Inconsistent} (h : cause.AdvisesReversal) :
    ∃ descending, cause = .range descending := by
  unfold AdvisesReversal at h
  cases cause with
  | range b => exact ⟨b, rfl⟩
  | keyBeforeStart b | keyAfterEnd b => cases b <;> exact absurd h (by decide +kernel)
  | _ => exact absurd h (by decide +kernel)

/-- An exchange is advised only where keys are checked. -/
theorem AdvisesReversal.not_beforeKeys {cause : Inconsistent} (h : cause.AdvisesReversal) :
    ¬Options.BeforeKeys (.inconsistent cause) := by
  obtain ⟨descending, rfl⟩ := h.exists_range
  simp [Options.BeforeKeys]

end Inconsistent

namespace Paging

/-- The range in the other direction. -/
def turned (p : Paging) : Paging := { p with descending := !p.descending }

/-- The range with its two ends exchanged. -/
def exchanged (p : Paging) : Paging := { p with startKey := p.endKey, endKey := p.startKey }

/-- In the other direction two keys are ordered the other way. -/
theorem compareKey_turned (p : Paging) (a b : String) :
    p.turned.compareKey a b = (p.compareKey a b).swap := by
  rw [compareKey_eq, compareKey_eq, turned]
  cases p.descending
  · rfl
  · exact Ordering.swap_swap.symm

/-- A range that is empty in one direction is not empty in the other. -/
theorem validate_turned {p : Paging} {e : OptionError} (h : p.validate = .error e) :
    p.turned.validate = .ok () := by
  obtain ⟨first, last, hfirst, hlast, hbeyond⟩ := exists_beyond_of_validate_eq_error h
  refine (validate_eq_ok_iff _).mpr fun first' last' hfirst' hlast' => ?_
  cases hfirst.symm.trans hfirst'
  cases hlast.symm.trans hlast'
  rw [compareKey_turned, hbeyond]
  decide

/-- A range that is empty is not empty with its ends exchanged. -/
theorem validate_exchanged {p : Paging} {e : OptionError} (h : p.validate = .error e) :
    p.exchanged.validate = .ok () := by
  obtain ⟨first, last, hfirst, hlast, hbeyond⟩ := exists_beyond_of_validate_eq_error h
  refine (validate_eq_ok_iff _).mpr fun last' first' hlast' hfirst' => ?_
  cases hfirst.symm.trans hfirst'
  cases hlast.symm.trans hlast'
  change p.compareKey last first ≠ .gt
  rw [OrientedCmp.gt_iff_lt.mp hbeyond]
  decide

end Paging

namespace ViewQuery

variable {q : ViewQuery} {cause : Inconsistent}

/-- Whether the key or one end of the range is not given. -/
def LacksKey (q : ViewQuery) : Prop :=
  q.key = none ∨ q.paging.startKey = none ∨ q.paging.endKey = none

/-- An empty range has both ends, so it is without a key if one of the three is not given. -/
theorem key_eq_none_of_validate_paging {e : OptionError} (hlacks : q.LacksKey)
    (h : q.paging.validate = .error e) : q.key = none := by
  obtain ⟨first, last, hfirst, hlast, -⟩ := Paging.exists_beyond_of_validate_eq_error h
  simpa [LacksKey, hfirst, hlast] using hlacks

/-- A key that lies before the start key or after the end key, the other end being open, lies on the
right side of it in the other direction. -/
theorem validateKey_turned {p : Paging} {key : String} {descending : Bool}
    (h : validateKey p key = .error (.inconsistent cause))
    (hadvice : cause.AdvisesDirection descending) :
    descending = (!p.descending) ∧ p.turned.validate = .ok () ∧
      validateKey p.turned key = .ok () := by
  have hadvised := hadvice.cases
  obtain h | ⟨h, hend, first, hstart, hbefore⟩ | ⟨h, hstart, last, hend, hafter⟩ :=
    validateKey_eq_error_cases h
  · cases h
    simp at hadvised
  · cases h
    refine ⟨by simpa [eq_comm] using hadvised, ?_, (validateKey_eq_ok_iff _ key).mpr ⟨?_, ?_⟩⟩
    · simp [Paging.validate_eq_ok_iff, Paging.turned, hend]
    · intro first' hfirst'
      cases hstart.symm.trans hfirst'
      rw [Paging.compareKey_turned, hbefore]
      decide
    · simp [Paging.turned, hend]
  · cases h
    refine ⟨by simpa [eq_comm] using hadvised, ?_, (validateKey_eq_ok_iff _ key).mpr ⟨?_, ?_⟩⟩
    · simp [Paging.validate_eq_ok_iff, Paging.turned, hstart]
    · simp [Paging.turned, hstart]
    · intro last' hlast'
      cases hend.symm.trans hlast'
      rw [Paging.compareKey_turned, hafter]
      decide

/-- A query that is refused with the advice to set a direction has the other one, and is accepted
in the direction advised. -/
theorem validate_turned {descending : Bool} (hlacks : q.LacksKey)
    (h : q.validate = .error (.inconsistent cause)) (hadvice : cause.AdvisesDirection descending)
    (sorted : Bool) :
    descending = (!q.paging.descending) ∧
      { q with paging := q.paging.turned, sorted }.validate = .ok () := by
  have hclash : ¬q.KeysClash := by
    intro hclash
    cases h.symm.trans (validate_of_keysClash hclash)
    simpa using hadvice.cases
  rw [validate_eq_ok_iff]
  obtain hpaging | ⟨key, hkey, hrefused⟩ := validate_eq_error_cases hclash h
  · have hkey := key_eq_none_of_validate_paging hlacks hpaging
    cases Paging.eq_of_validate_eq_error hpaging
    refine ⟨by simpa [eq_comm] using hadvice.cases, hclash,
      Paging.validate_turned hpaging, by simp [hkey]⟩
  · obtain ⟨hturned, hrange, hchecked⟩ := validateKey_turned hrefused hadvice
    refine ⟨hturned, hclash, hrange, fun other hother => ?_⟩
    cases hkey.symm.trans hother
    exact hchecked

/-- The advice to exchange the ends of the range comes from the check of the range. -/
theorem validate_paging_of_advisesReversal (h : q.validate = .error (.inconsistent cause))
    (hadvice : cause.AdvisesReversal) :
    ¬q.KeysClash ∧ q.paging.validate = .error (.inconsistent cause) := by
  obtain ⟨descending, rfl⟩ := hadvice.exists_range
  have hclash : ¬q.KeysClash := fun hclash => by cases h.symm.trans (validate_of_keysClash hclash)
  refine ⟨hclash, ?_⟩
  obtain hpaging | ⟨key, -, hkey⟩ := validate_eq_error_cases hclash h
  · exact hpaging
  · obtain h | ⟨h, -⟩ | ⟨h, -⟩ := validateKey_eq_error_cases hkey <;> cases h

/-- A query whose range is refused is accepted once the ends of the range are exchanged. -/
theorem validate_exchanged {e : OptionError} (hlacks : q.LacksKey) (hclash : ¬q.KeysClash)
    (h : q.paging.validate = .error e) (sorted : Bool) :
    { q with paging := q.paging.exchanged, sorted }.validate = .ok () := by
  have hkey := key_eq_none_of_validate_paging hlacks h
  refine (validate_eq_ok_iff _).mpr ⟨fun hclash' => hclash ⟨hclash'.1, ?_⟩,
    Paging.validate_exchanged h, by simp [hkey]⟩
  exact hclash'.2.imp_right Or.symm

end ViewQuery

namespace Options

variable {o o' : Options} {view : String} {cause : Inconsistent}

/-- Whether a request is without a key, without a start key or without an end key. -/
def LacksKey (o : Options) : Prop :=
  o.first? ["key"] = none ∨ o.first? ["startkey", "start_key"] = none ∨
    o.first? ["endkey", "end_key"] = none

/-- Without any of its options a key is absent. -/
theorem keyOption_of_first?_eq_none {names : List String} (h : o.first? names = none) :
    o.keyOption names = .ok none := by
  rw [keyOption, readFirst, h]

/-- A key is given by one of its options. -/
theorem exists_first?_of_keyOption {names : List String} {key : String}
    (h : o.keyOption names = .ok (some key)) :
    ∃ name param, o.first? names = some (name, param) := by
  cases hfirst : o.first? names with
  | none => cases (keyOption_of_first?_eq_none hfirst).symm.trans h
  | some found => exact ⟨_, _, rfl⟩

/-- A request without a key, or without an end of the range, gives a query without it. -/
theorem Assembles.lacksKey {q : ViewQuery} (h : o.Assembles view q) (hlacks : o.LacksKey) :
    q.LacksKey := by
  refine hlacks.imp (fun hkey => ?_) (.imp (fun hstart => ?_) fun hend => ?_)
  · exact Except.ok.inj (h.key.symm.trans (keyOption_of_first?_eq_none hkey))
  · exact Except.ok.inj (h.paging.startKey.symm.trans (keyOption_of_first?_eq_none hstart))
  · exact Except.ok.inj (h.paging.endKey.symm.trans (keyOption_of_first?_eq_none hend))

/-- A request that is refused for its keys is put together first. -/
theorem exists_assembles {e : OptionError} (h : o.viewQuery view = .error e)
    (he : ¬BeforeKeys e) : ∃ q, o.Assembles view q ∧ q.validate = .error e := by
  rw [viewQuery_eq, bind_eq_error_iff] at h
  obtain hassemble | ⟨q, hq, h⟩ := h
  · exact absurd (assembleQuery_refusedFor e hassemble) he
  · obtain hvalidate | ⟨_, _, h⟩ := bind_eq_error_iff.mp h
    · exact ⟨q, assembleQuery_eq_ok_iff.mp hq, hvalidate⟩
    · cases h

/-- A direction that is set to a boolean is this boolean. -/
theorem descending_insert (o : Options) (b : Bool) :
    descending (o.insert "descending" (.decoded (.bool b))) = .ok b :=
  read_of_get? (KeyMap.get?_insert_self o _ _) false _

/-- A request that differs in its range alone is for the query with this range, but for the order of
rows. -/
theorem Assembles.with_range {q : ViewQuery} {b : Bool} {first last : Option String}
    (h : o.Assembles view q) (hagree : AgreeApartFrom rangeNames o o')
    (hdescending : o'.descending = .ok b) (hstart : o'.startKey = .ok first)
    (hend : o'.endKey = .ok last) (hkey : o'.key = o.key) (hkeys : o'.keys = o.keys) :
    ∃ sorted, o'.Assembles view
      { q with
        paging := { q.paging with descending := b, startKey := first, endKey := last }
        sorted } := by
  have hread {α : Type} {x y : Except OptionError α} {a c : α} (hx : x = .ok a) (hy : y = .ok c) :
      SameVerdict (fun _ d => d = c) x y := by
    rw [hx, hy]
    exact .accepted rfl
  have hverdict := hagree.sameVerdict_assembleQuery (hread h.paging.descending hdescending)
    (hread h.paging.startKey hstart) (hread h.paging.endKey hend)
    (hread h.key (hkey.trans h.key)) (hread h.keys (hkeys.trans h.keys))
    hagree.sameVerdict_sorted view
  obtain ⟨_, hq', _, _, _, _, _, sorted, rfl, rfl, rfl, rfl, rfl, -, rfl⟩ :=
    hverdict.exists_ok (assembleQuery_eq_ok_iff.mpr h)
  exact ⟨sorted, assembleQuery_eq_ok_iff.mp hq'⟩

/-- A request with another direction is for the query with this direction, but for the order of
rows. -/
theorem Assembles.insert_descending {q : ViewQuery} (h : o.Assembles view q) (b : Bool) :
    ∃ sorted, Assembles (o.insert "descending" (.decoded (.bool b))) view
      { q with paging := { q.paging with descending := b }, sorted } := by
  have hagree : AgreeApartFrom ["descending"] o (o.insert "descending" (.decoded (.bool b))) :=
    agreeApartFrom_insert List.mem_cons_self o _
  exact h.with_range (hagree.mono (by decide)) (descending_insert o b)
    ((hagree.readFirst_eq (by decide) _ _).symm.trans h.paging.startKey)
    ((hagree.readFirst_eq (by decide) _ _).symm.trans h.paging.endKey)
    (hagree.readFirst_eq (by decide) _ _).symm (hagree.read_eq (by decide) _ _).symm

/-- Whether a key can be read, and as which text, does not depend on its name. -/
theorem keyOption_eq_of_param_eq {names names' : List String} {name name' : String} {param : Param}
    {key : Option String} (hkey : o.keyOption names = .ok key)
    (h : o.first? names = some (name, param)) (h' : o'.first? names' = some (name', param)) :
    o'.keyOption names' = .ok key := by
  rw [keyOption, readFirst, h] at hkey
  obtain ⟨text, hread, rfl⟩ := map_eq_ok_iff.mp hkey
  rw [keyOption, readFirst, h']
  refine map_eq_ok_iff.mpr ⟨text, ?_, rfl⟩
  cases param with
  | decoded value => exact hread
  | encoded other =>
    simp only [readKey] at hread ⊢
    split at hread
    · exact hread
    · cases hread

/-- A request with the ends of its range exchanged is for the query with these ends, but for the
order of rows. -/
theorem Assembles.exchange {q : ViewQuery} (h : o.Assembles view q) {startName endName : String}
    {startParam endParam : Param}
    (hstart : o.first? ["startkey", "start_key"] = some (startName, startParam))
    (hend : o.first? ["endkey", "end_key"] = some (endName, endParam)) :
    ∃ sorted, Assembles ((o.insert startName endParam).insert endName startParam) view
      { q with paging := q.paging.exchanged, sorted } := by
  have hstartName := (mem_of_first? hstart).1
  have hendName := (mem_of_first? hend).1
  have hothers : ∀ name ∈ ["startkey", "start_key"], name ∉ ["endkey", "end_key"] := by decide
  -- Each end is set by the name that it is found by.
  have hstart' : first? ((o.insert startName endParam).insert endName startParam)
      ["startkey", "start_key"] = some (startName, endParam) := by
    rw [← (agreeApartFrom_insert hendName _ _).first?_eq hothers]
    exact first?_insert_of_first? hstart endParam
  have hend' : first? ((o.insert startName endParam).insert endName startParam)
      ["endkey", "end_key"] = some (endName, startParam) := by
    have hkept : first? (o.insert startName endParam) ["endkey", "end_key"] =
        some (endName, endParam) := by
      rw [← (agreeApartFrom_insert hstartName o _).first?_eq (by decide), hend]
    exact first?_insert_of_first? hkept startParam
  have hagree : AgreeApartFrom ["startkey", "start_key", "endkey", "end_key"] o
      ((o.insert startName endParam).insert endName startParam) :=
    (agreeApartFrom_insert (List.mem_append_left _ hstartName) o endParam).trans
      (agreeApartFrom_insert (List.mem_append_right _ hendName) _ startParam)
  exact h.with_range (hagree.mono (by decide))
    ((hagree.read_eq (by decide) _ _).symm.trans h.paging.descending)
    (keyOption_eq_of_param_eq h.paging.endKey hend hstart')
    (keyOption_eq_of_param_eq h.paging.startKey hstart hend')
    (hagree.readFirst_eq (by decide) _ _).symm (hagree.read_eq (by decide) _ _).symm

/-- The advice of an empty range works: if the key, the start key or the end key is not given, a
request that is refused with the advice to set a direction compiles once the direction is set, and
one that is refused with the advice to exchange the start key and the end key has both, and compiles
once their values are exchanged. -/
theorem advice_compiles (hlacks : o.LacksKey)
    (h : o.viewQuery view = .error (.inconsistent cause)) :
    (∀ descending, cause.AdvisesDirection descending →
      ∃ q, viewQuery (o.insert "descending" (.decoded (.bool descending))) view = .ok q) ∧
    (cause.AdvisesReversal → ∃ startName startParam endName endParam,
      o.first? ["startkey", "start_key"] = some (startName, startParam) ∧
      o.first? ["endkey", "end_key"] = some (endName, endParam) ∧
      ∃ q, viewQuery ((o.insert startName endParam).insert endName startParam) view = .ok q) := by
  constructor
  · intro descending hadvice
    obtain ⟨q, hq, hrefused⟩ := exists_assembles h hadvice.not_beforeKeys
    obtain ⟨sorted, hassembles⟩ := hq.insert_descending descending
    obtain ⟨rfl, hvalid⟩ := ViewQuery.validate_turned (hq.lacksKey hlacks) hrefused hadvice sorted
    exact ⟨_, viewQuery_eq_ok_iff.mpr ⟨hassembles, hvalid⟩⟩
  · intro hadvice
    obtain ⟨q, hq, hrefused⟩ := exists_assembles h hadvice.not_beforeKeys
    obtain ⟨hclash, hpaging⟩ := ViewQuery.validate_paging_of_advisesReversal hrefused hadvice
    obtain ⟨first, last, hfirst, hlast, -⟩ := Paging.exists_beyond_of_validate_eq_error hpaging
    obtain ⟨startName, startParam, hstart⟩ :=
      exists_first?_of_keyOption (hfirst ▸ hq.paging.startKey)
    obtain ⟨endName, endParam, hend⟩ := exists_first?_of_keyOption (hlast ▸ hq.paging.endKey)
    obtain ⟨sorted, hassembles⟩ := hq.exchange hstart hend
    exact ⟨startName, startParam, endName, endParam, hstart, hend, _, viewQuery_eq_ok_iff.mpr
      ⟨hassembles, ViewQuery.validate_exchanged (hq.lacksKey hlacks) hclash hpaging sorted⟩⟩

/-- A range from true to false is refused with both advices, and compiles if either is followed. -/
theorem advice_compiles_reversed :
    let o : Options := .ofList
      [("startkey", .decoded (.bool true)), ("endkey", .decoded (.bool false))]
    o.LacksKey ∧ o.viewQuery "rows" = .error (.inconsistent (.range true)) ∧
      Inconsistent.AdvisesDirection (.range true) true ∧
      Inconsistent.AdvisesReversal (.range true) ∧
      (∃ q, viewQuery (o.insert "descending" (.decoded (.bool true))) "rows" = .ok q) ∧
      ∃ startName startParam endName endParam,
        o.first? ["startkey", "start_key"] = some (startName, startParam) ∧
        o.first? ["endkey", "end_key"] = some (endName, endParam) ∧
        ∃ q, viewQuery ((o.insert startName endParam).insert endName startParam) "rows" =
          .ok q := by
  intro o
  have hlacks : o.LacksKey := .inl rfl
  let p : Paging := { Paging.everything with startKey := some "true", endKey := some "false" }
  have hbeyond : p.compareKey "true" "false" = .gt := by decide +kernel
  have hpaging : p.validate = .error (.inconsistent (.range true)) := if_pos hbeyond
  have hrefused : o.viewQuery "rows" = .error (.inconsistent (.range true)) := by
    rw [viewQuery_eq]
    change ({ ViewQuery.ofView "rows" with paging := p }.validate >>= fun _ => pure _) = _
    unfold ViewQuery.validate
    rw [hpaging]
    rfl
  have hdirection : Inconsistent.AdvisesDirection (.range true) true := by decide +kernel
  have hreversal : Inconsistent.AdvisesReversal (.range true) := by decide +kernel
  obtain ⟨hturned, hexchanged⟩ := advice_compiles hlacks hrefused
  exact ⟨hlacks, hrefused, hdirection, hreversal, hturned true hdirection, hexchanged hreversal⟩

end Options

end DocQuery
