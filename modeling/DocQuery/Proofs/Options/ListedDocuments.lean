import DocQuery.Options.Changes
import DocQuery.Proofs.Options.Reading
import DocQuery.Proofs.Steps
import Mathlib.Tactic.ByContra

/-!
# Documents that options list

A feed is restricted to documents if its filter is the one by listed documents and an array of
strings is given for them. What this says is stated about the options alone, and reading them gives
the same documents.
-/

namespace DocQuery

/-- The strings of an array of strings. -/
def Json.strings? : Json → Option (List String)
  | .arr items => items.mapM fun item => (Param.decoded item).string?
  | _ => none

namespace Options

/-- Whether the filter of a feed is the one by listed documents. -/
def IsFilteredByDocuments (o : Options) : Prop :=
  (o.get? "filter").bind Param.string? = some "_doc_ids"

instance (o : Options) : Decidable o.IsFilteredByDocuments :=
  inferInstanceAs (Decidable (_ = _))

/-- The documents that options list: an array of strings, or the text of one. -/
def listedDocIds? (o : Options) : Option (List String) :=
  (o.get? "doc_ids").bind fun param => param.decode.toOption.bind Json.strings?

variable {o : Options}

/-- Only the filter by listed documents is read from its name. -/
theorem readFilter_eq_docIds_iff {param : Param} :
    readFilter o param = .ok .docIds ↔ param.string? = some "_doc_ids" := by
  have hname : param.string?.getD "" = "_doc_ids" ↔ param.string? = some "_doc_ids" := by
    cases param.string? <;> simp
  rw [← hname]
  unfold readFilter
  constructor
  · intro h
    by_contra hother
    simp only [if_neg hother] at h
    split at h
    · split at h
      · cases h
      · obtain ⟨_, _, hview⟩ := bind_eq_ok_iff.mp h
        cases hview
    · obtain ⟨_, _, hfunction⟩ := bind_eq_ok_iff.mp h
      cases hfunction
  · intro h
    simp only [if_pos h]
    rfl

/-- The filter that is read is the one by listed documents exactly if the option says so. -/
theorem changesFilter_eq_docIds_iff :
    o.changesFilter = .ok (some .docIds) ↔ o.IsFilteredByDocuments := by
  rw [changesFilter, IsFilteredByDocuments]
  cases hparam : o.get? "filter" with
  | none =>
    rw [Options.read, readFirst_of_absent none _ (by simpa using hparam)]
    constructor <;> rintro ⟨⟩
  | some param =>
    rw [read_of_get? hparam, Option.bind_some, map_eq_ok_iff, ← readFilter_eq_docIds_iff (o := o)]
    simp

/-- Items are read as strings exactly if they are strings. -/
theorem strings_eq_ok_iff {name : String} {items : List Json} {texts : List String} :
    strings name items = .ok texts ↔ (Json.arr items).strings? = some texts := by
  rw [Json.strings?]
  induction items generalizing texts with
  | nil => rw [strings, List.mapM_nil, Except.ok.injEq, Option.pure_def, Option.some_inj]
  | cons item rest ih =>
    cases item with
    | str s =>
      rw [strings, bind_eq_ok_iff, List.mapM_cons, Param.string?, Option.bind_eq_bind,
        Option.bind_some, Option.bind_eq_bind, Option.bind_eq_some_iff]
      constructor
      · rintro ⟨others, hothers, htexts⟩
        cases htexts
        exact ⟨others, ih.mp hothers, rfl⟩
      · rintro ⟨others, hothers, htexts⟩
        cases htexts
        exact ⟨others, ih.mpr hothers, rfl⟩
    | _ => exact ⟨by rintro ⟨⟩, by rintro ⟨⟩⟩

/-- An option is read as strings exactly if it decodes to an array of them. -/
theorem readStrings_eq_ok_iff {name : String} {param : Param} {texts : List String} :
    readStrings name param = .ok texts ↔
      param.decode.toOption.bind Json.strings? = some texts := by
  unfold readStrings
  split
  · rename_i items hdecode
    rw [hdecode]
    exact strings_eq_ok_iff
  · rename_i hother
    refine ⟨by rintro ⟨⟩, fun h => ?_⟩
    obtain ⟨value, hvalue, hstrings⟩ := Option.bind_eq_some_iff.mp h
    cases value with
    | arr items => exact absurd (toOption_eq_some_iff.mp hvalue) (hother items)
    | _ => cases hstrings

/-- A feed that is filtered by documents is restricted to what is read of their option. -/
theorem changedDocIds_of_filtered (h : o.IsFilteredByDocuments) :
    o.changedDocIds = match o.get? "doc_ids" with
      | none => .error (.malformed .missingDocIds)
      | some param => some <$> readStrings "doc_ids" param := by
  rw [changedDocIds, changesFilter_eq_docIds_iff.mpr h]
  rfl

/-- Any other feed is not restricted, if its filter can be read. -/
theorem changedDocIds_of_unfiltered (h : ¬o.IsFilteredByDocuments) :
    o.changedDocIds = (fun _ => none) <$> o.changesFilter := by
  rw [changedDocIds]
  cases hfilter : o.changesFilter with
  | error e => rfl
  | ok filter =>
    have hother : filter ≠ some .docIds := by
      rintro rfl
      exact h (changesFilter_eq_docIds_iff.mp hfilter)
    exact if_neg hother

/-- A feed is restricted to documents exactly if it is filtered by documents, and then to those that
its options list. -/
theorem changedDocIds_eq_some_iff {ids : List String} :
    o.changedDocIds = .ok (some ids) ↔ o.IsFilteredByDocuments ∧ o.listedDocIds? = some ids := by
  by_cases hdocuments : o.IsFilteredByDocuments
  · rw [changedDocIds_of_filtered hdocuments, listedDocIds?]
    cases o.get? "doc_ids" with
    | none => simp
    | some param => simp [map_eq_ok_iff, readStrings_eq_ok_iff, hdocuments]
  · rw [changedDocIds_of_unfiltered hdocuments, map_eq_ok_iff]
    simp [hdocuments]

/-- A feed that is not restricted is not filtered by documents. -/
theorem not_isFilteredByDocuments (h : o.changedDocIds = .ok none) :
    ¬o.IsFilteredByDocuments := by
  intro hdocuments
  rw [changedDocIds_of_filtered hdocuments] at h
  split at h
  · cases h
  · obtain ⟨texts, -, hnone⟩ := map_eq_ok_iff.mp h
    cases hnone

end Options

end DocQuery
