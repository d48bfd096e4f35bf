import DocQuery.Proofs.Options.ListedDocuments
import DocQuery.Proofs.View.Where

/-!
# Lists of values through a run of calls

The parts of a statement are built one after another on one list of values: conditions of rows, of
grouped rows and of reduced rows, ranges of keys, and restrictions of feeds of changes. Every call
only adds to the list, so what its placeholders referred to they refer to at the end of the run. The
run goes on with the list that a call leaves, whether the call fails or not, and one that fails
leaves the list that it was given.
-/

namespace DocQuery

open Sql (Predicate Restriction mentions mentionsOf valueAt?)

/-- A call that builds a part of a statement. -/
inductive Call where
  /-- The conditions of the rows of a view. -/
  | rows (q : ViewQuery)
  /-- The conditions of grouped rows. -/
  | groups (q : ViewQuery)
  /-- The conditions of reduced rows. -/
  | reduced (q : ViewQuery)
  /-- The conditions of a range of keys. -/
  | range (p : Paging)
  /-- The condition of a feed of changes. -/
  | changes (o : Options)

namespace Call

/-- Binds restrictions and gives the texts of their predicates. -/
def bindTexts (restrictions : List Restriction) :
    ExceptT OptionError (StateM (List String)) (List String) := do
  let predicates ← modifyGet (Restriction.bindAll restrictions)
  return predicates.map Predicate.text

/-- The texts that a call gives, as it is made on a list of values. -/
def perform : Call → ExceptT OptionError (StateM (List String)) (List String)
  | .rows q => bindTexts q.rowRestrictions
  | .groups q => bindTexts q.groupRestrictions
  | .reduced q => bindTexts q.reducedRestrictions
  | .range p => bindTexts p.restrictions
  | .changes o => return [← o.changesCondition]

/-- The restrictions that a call is about. Those of a feed are known from its options alone: if it
is filtered by documents, the documents have to be listed. -/
def restrictions? : Call → Option (List Restriction)
  | .rows q => some q.rowRestrictions
  | .groups q => some q.groupRestrictions
  | .reduced q => some q.reducedRestrictions
  | .range p => some p.restrictions
  | .changes o =>
    if o.IsFilteredByDocuments then o.listedDocIds?.map fun ids => [.oneOf .changedId ids]
    else some []

/-- The keys and documents that a call is about, in the order of its predicates: the two ends of a
range of keys, the documents there, and further keys. In reduced rows, two columns are compared
with a further key. A feed that is filtered by documents is about those that its options list. -/
def subjects? : Call → Option (List String)
  | .rows q => some <|
    q.paging.startKey.toList ++ q.paging.endKey.toList ++
      (q.paging.startKey.bind fun _ => q.startKeyDocId).toList ++
      (q.paging.endKey.bind fun _ => q.endKeyDocId).toList ++ q.key.toList ++ q.keys
  | .groups q => some <|
    q.paging.startKey.toList ++ q.paging.endKey.toList ++ q.key.toList ++ q.keys
  | .reduced q => some <|
    q.paging.startKey.toList ++ q.paging.endKey.toList ++
      (q.key.toList ++ q.keys).flatMap fun key => [key, key]
  | .range p => some (p.startKey.toList ++ p.endKey.toList)
  | .changes o => if o.IsFilteredByDocuments then o.listedDocIds? else some []

end Call

/-- The restrictions of every call are plain. -/
theorem Call.plain_of_mem_restrictions {call : Call} {restrictions : List Restriction}
    (h : call.restrictions? = some restrictions) {r : Restriction} (hr : r ∈ restrictions) :
    r.Plain := by
  cases call with
  | rows q =>
    cases h
    exact ViewQuery.plain_of_mem_rowRestrictions hr
  | groups q =>
    cases h
    exact ViewQuery.plain_of_mem_groupRestrictions hr
  | reduced q =>
    cases h
    exact ViewQuery.plain_of_mem_reducedRestrictions hr
  | range p =>
    cases h
    exact Paging.plain_of_mem_rangeRestrictions hr
  | changes o =>
    rw [restrictions?] at h
    split at h
    · obtain ⟨ids, -, rfl⟩ := Option.map_eq_some_iff.mp h
      obtain rfl := List.mem_singleton.mp hr
      trivial
    · cases h
      cases hr

/-- A feed whose documents can be read has the restriction to them, if it is restricted. -/
theorem Call.restrictions?_changes {o : Options} {ids : Option (List String)}
    (h : o.changedDocIds = .ok ids) :
    (changes o).restrictions? = some (ids.map (Restriction.oneOf .changedId)).toList := by
  rw [restrictions?]
  cases ids with
  | none =>
    rw [if_neg (Options.not_isFilteredByDocuments h)]
    rfl
  | some ids =>
    obtain ⟨hdocuments, hlisted⟩ := Options.changedDocIds_eq_some_iff.mp h
    rw [if_pos hdocuments, hlisted]
    rfl

/-- The values that the parts of restrictions are about, in the order of the parts. -/
def partValues (restrictions : List Restriction) : List String :=
  (restrictions.flatMap Restriction.parts).flatMap Restriction.values

/-- Restrictions are about their values one after the other. -/
theorem partValues_append (as bs : List Restriction) :
    partValues (as ++ bs) = partValues as ++ partValues bs := by
  simp [partValues]

/-- A restriction that may be missing has the value it is made with. -/
theorem partValues_optional (column : Sql.Column) (comparison : Comparison)
    (value : Option String) :
    partValues (value.map (Restriction.compare [column] comparison)).toList = value.toList := by
  cases value <;> rfl

/-- A range of keys is about its two ends. -/
theorem Paging.partValues_rangeRestrictions (p : Paging) (startColumn endColumn : Sql.Column) :
    partValues (p.rangeRestrictions startColumn endColumn) =
      p.startKey.toList ++ p.endKey.toList := by
  rw [rangeRestrictions, partValues_append, partValues_optional, partValues_optional]

namespace ViewQuery

/-- The pattern of a built-in view is about no value. -/
theorem partValues_documentRestrictions (q : ViewQuery) :
    partValues q.documentRestrictions = [] := by
  unfold documentRestrictions
  split_ifs <;> rfl

/-- The documents at the ends of a range count only with the end. -/
theorem partValues_docIdRestrictions (q : ViewQuery) :
    partValues q.docIdRestrictions =
      (q.paging.startKey.bind fun _ => q.startKeyDocId).toList ++
        (q.paging.endKey.bind fun _ => q.endKeyDocId).toList := by
  rw [docIdRestrictions_eq, partValues_append, partValues_optional, partValues_optional]

/-- Further keys are the single one and those of a list. -/
theorem partValues_keyRestrictions (q : ViewQuery) :
    partValues q.keyRestrictions = q.key.toList ++ q.keys := by
  rw [keyRestrictions, partValues_append, partValues_optional]
  cases q.keys <;> simp [partValues, Restriction.parts, Restriction.values]

end ViewQuery

/-- The restrictions of a call are about its subjects. -/
theorem Call.subjects?_eq {call : Call} {restrictions : List Restriction}
    (h : call.restrictions? = some restrictions) :
    call.subjects? = some (partValues restrictions) := by
  cases call with
  | rows q =>
    cases h
    simp only [ViewQuery.rowRestrictions, Paging.restrictions, partValues_append,
      ViewQuery.partValues_documentRestrictions, Paging.partValues_rangeRestrictions,
      ViewQuery.partValues_docIdRestrictions, ViewQuery.partValues_keyRestrictions, subjects?,
      List.nil_append, List.append_assoc]
  | groups q =>
    cases h
    simp only [ViewQuery.groupRestrictions, Paging.restrictions, partValues_append,
      Paging.partValues_rangeRestrictions, ViewQuery.partValues_keyRestrictions, subjects?,
      List.append_assoc]
  | reduced q =>
    cases h
    rw [ViewQuery.reducedRestrictions, partValues_append, Paging.partValues_rangeRestrictions,
      subjects?]
    congr 2
    simp only [partValues, List.flatMap_map, List.flatMap_assoc]
    rfl
  | range p =>
    cases h
    rw [Paging.restrictions, Paging.partValues_rangeRestrictions, subjects?]
  | changes o =>
    rw [restrictions?] at h
    rw [subjects?]
    split at h
    · obtain ⟨ids, hids, rfl⟩ := Option.map_eq_some_iff.mp h
      rw [if_pos ‹_›, hids]
      simp [partValues, Restriction.parts, Restriction.values]
    · cases h
      rw [if_neg ‹_›]
      rfl

namespace Call

/-- The texts of the predicates of a call. A feed has one condition with all of them. -/
def render (predicates : List Predicate) : Call → List String
  | .changes _ =>
    if predicates.isEmpty then [""]
    else ["WHERE " ++ " AND ".intercalate (predicates.map Predicate.text)]
  | _ => predicates.map Predicate.text

/-- What a call does with a list of values: it binds its restrictions and shows them, or it is a
feed whose documents cannot be read, and leaves the list as it was. -/
theorem perform_cases (call : Call) (bound : List String) :
    (∃ restrictions, call.restrictions? = some restrictions ∧
      (∀ e o, call = .changes o → o.changedDocIds ≠ .error e) ∧
      call.perform.run.run bound =
        (.ok (call.render (Restriction.bindAll restrictions bound).1),
          (Restriction.bindAll restrictions bound).2)) ∨
    ∃ o e, call = .changes o ∧ o.changedDocIds = .error e ∧
      call.perform.run.run bound = (.error e, bound) := by
  cases call with
  | changes o =>
    cases hids : o.changedDocIds with
    | error e =>
      refine .inr ⟨o, e, rfl, hids, ?_⟩
      rw [perform, Options.changesCondition, hids]
      rfl
    | ok ids =>
      refine .inl ⟨_, restrictions?_changes hids, ?_, ?_⟩
      · rintro e _ ⟨⟩
        rw [hids]
        nofun
      · rw [perform, Options.changesCondition, hids]
        cases ids <;> rfl
  | _ => exact .inl ⟨_, rfl, nofun, rfl⟩

/-- The texts of a call mention the placeholders of its predicates. -/
theorem mentionsOf_render {predicates : List Predicate} (h : ∀ p ∈ predicates, p.Plain)
    (call : Call) :
    mentionsOf (call.render predicates) = predicates.flatMap Predicate.placeholders := by
  cases call with
  | changes o =>
    rw [render]
    split
    · rename_i hempty
      rw [List.isEmpty_iff.mp hempty]
      rfl
    · have hwhere : '$' ∉ "WHERE ".toList := by decide
      rw [mentionsOf, List.flatMap_singleton, String.toList_append,
        Sql.mentions_append_of_not_mem hwhere, Sql.mentions_intercalate rfl (by decide) (by decide),
        Sql.mentionsOf_map_text h]
  | _ => exact Sql.mentionsOf_map_text h

end Call

/-- A call in a run: the list of values before it, the texts it gave or why it failed, and the list
of values after it. -/
structure CallStep where
  call : Call
  before : List String
  outcome : Except OptionError (List String)
  after : List String

/-- A call on a list of values. -/
def Call.step (call : Call) (bound : List String) : CallStep :=
  let (outcome, after) := call.perform.run.run bound
  ⟨call, bound, outcome, after⟩

/-- Calls one after another on one list of values: every step, and the list at the end. -/
def runCalls : List Call → List String → List CallStep × List String
  | [], bound => ([], bound)
  | call :: rest, bound =>
    let step := call.step bound
    let (steps, final) := runCalls rest step.after
    (step :: steps, final)

/-- Whether a step fits the list of values at the end of a run. The texts number the values added
without a gap, mention the subjects of the call, and are those of predicates about its
restrictions. Only a feed fails, exactly if the documents of its options cannot be read, and then
it leaves the list alone. -/
structure CallStep.Consistent (s : CallStep) (final : List String) : Prop where
  added : s.before <+: s.after
  kept : s.after <+: final
  unchanged : ∀ e, s.outcome = .error e → s.after = s.before
  failed : ∀ e, s.outcome = .error e ↔ ∃ o, s.call = .changes o ∧ o.changedDocIds = .error e
  numbered : ∀ texts, s.outcome = .ok texts →
    (mentionsOf texts).eraseDups =
      List.range' (s.before.length + 1) (s.after.length - s.before.length)
  mentioned : ∀ texts, s.outcome = .ok texts → ∃ subjects,
    s.call.subjects? = some subjects ∧
      (mentionsOf texts).map (valueAt? final) = subjects.map some
  stated : ∀ texts, s.outcome = .ok texts → ∃ predicates restrictions,
    texts = s.call.render predicates ∧ s.call.restrictions? = some restrictions ∧
      predicates.map (Predicate.filled? final) = (restrictions.flatMap Restriction.parts).map some

/-- A step fits every list that begins with the one after it. -/
theorem Call.step_consistent {call : Call} {bound final : List String}
    (h : (call.step bound).after <+: final) : (call.step bound).Consistent final := by
  rcases call.perform_cases bound with
    ⟨restrictions, hr, hread, hperform⟩ | ⟨o, e, hcall, hids, hperform⟩
  · have hstep : call.step bound =
        ⟨call, bound, .ok (call.render (Restriction.bindAll restrictions bound).1),
          (Restriction.bindAll restrictions bound).2⟩ := by
      rw [step, hperform]
    rw [hstep] at h ⊢
    have hplain : ∀ r ∈ restrictions, r.Plain := fun r => plain_of_mem_restrictions hr
    have hpredicates : ∀ p ∈ (Restriction.bindAll restrictions bound).1, p.Plain :=
      fun p => Restriction.plain_of_mem_bindAll hplain
    have hmentions := mentionsOf_render hpredicates call
    have hfilled := Restriction.filled?_bindAll h
    refine ⟨?_, h, nofun, fun e => ⟨nofun, ?_⟩, ?_, ?_, ?_⟩
    · rw [Restriction.bindAll_snd]
      exact List.prefix_append _ _
    · rintro ⟨o, hcall, hids⟩
      exact absurd hids (hread e o hcall)
    · rintro _ ⟨⟩
      rw [hmentions, Restriction.eraseDups_placeholders_bindAll hplain, Restriction.bindAll_snd,
        List.length_append, Nat.add_sub_cancel_left]
    · rintro _ ⟨⟩
      refine ⟨_, subjects?_eq hr, ?_⟩
      rw [hmentions, Sql.map_valueAt?_flatMap hfilled, partValues]
    · rintro _ ⟨⟩
      exact ⟨_, restrictions, rfl, hr, hfilled⟩
  · have hstep : call.step bound = ⟨call, bound, .error e, bound⟩ := by
      rw [step, hperform]
    rw [hstep] at h ⊢
    refine ⟨List.prefix_refl _, h, fun _ _ => rfl, fun e' => ⟨?_, ?_⟩, nofun, nofun, nofun⟩
    · rintro ⟨⟩
      exact ⟨o, hcall, hids⟩
    · rintro ⟨o', hcall', hids'⟩
      obtain rfl := Call.changes.inj (hcall.symm.trans hcall')
      rw [hids] at hids'
      exact congrArg Except.error (Except.error.inj hids')

/-- A call only adds values. -/
theorem Call.prefix_step_after (call : Call) (bound : List String) :
    bound <+: (call.step bound).after :=
  (step_consistent (List.prefix_refl (call.step bound).after)).added

/-- A run of calls only adds values. -/
theorem prefix_runCalls (calls : List Call) (bound : List String) :
    bound <+: (runCalls calls bound).2 := by
  induction calls generalizing bound with
  | nil => exact List.prefix_refl bound
  | cons call rest ih => exact (call.prefix_step_after bound).trans (ih _)

/-- In every run of calls, whatever the list of values at first, the list is only added to, and
every step fits the list at the end. -/
theorem runCalls_consistent (calls : List Call) (bound : List String) :
    (runCalls calls bound).1.map CallStep.call = calls ∧ bound <+: (runCalls calls bound).2 ∧
      ∀ step ∈ (runCalls calls bound).1, step.Consistent (runCalls calls bound).2 := by
  refine ⟨?_, prefix_runCalls calls bound, ?_⟩
  · induction calls generalizing bound with
    | nil => rfl
    | cons call rest ih =>
      rw [runCalls, List.map_cons, ih]
      rfl
  · induction calls generalizing bound with
    | nil => exact fun step hstep => absurd hstep List.not_mem_nil
    | cons call rest ih =>
      intro step hstep
      rcases List.mem_cons.mp hstep with rfl | hstep
      · exact Call.step_consistent (prefix_runCalls rest _)
      · exact ih _ step hstep

/-- After a call on reduced rows, a feed that fails at the second of its documents leaves the list
of values to the next one, which adds its documents. -/
theorem runCalls_consistent_failed_feed :
    let q : ViewQuery := { ViewQuery.ofView "rows" with keys := ["1", "2"] }
    let feed (docIds : List Json) : Options :=
      .ofList [("filter", .decoded (.str "_doc_ids")), ("doc_ids", .decoded (.arr docIds))]
    let calls : List Call := [.reduced q, .changes (feed [.str "a", .null]),
      .changes (feed [.str "b", .str "c"]), .groups q]
    (runCalls calls ["0"]).1.map CallStep.after =
        [["0", "1", "2"], ["0", "1", "2"], ["0", "1", "2", "b", "c"],
          ["0", "1", "2", "b", "c", "1", "2"]] ∧
      ∀ step ∈ (runCalls calls ["0"]).1, step.Consistent ["0", "1", "2", "b", "c", "1", "2"] := by
  intro q feed calls
  have hfinal : (runCalls calls ["0"]).2 = ["0", "1", "2", "b", "c", "1", "2"] := by
    decide +kernel
  have hrun := runCalls_consistent calls ["0"]
  rw [hfinal] at hrun
  exact ⟨by decide +kernel, hrun.2.2⟩

end DocQuery
