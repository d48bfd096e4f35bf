import DocQuery.Proofs.Json.Induction
import DocQuery.Proofs.View.Agreement

/-!
# Options that decide a query

Two requests that have the same options for a query come to the same result, whatever else they
hold: options of other names, and the second spelling of an option whose first spelling is there.
Which spelling is used shows in the messages of values that cannot be read, and nowhere else.
-/

namespace DocQuery

namespace Options

variable {o o' : Options} {name other : String}

/-- The options that decide a query of a view, apart from those with two spellings. -/
def viewNames : List String :=
  ["limit", "skip", "descending", "inclusive_end", "reduce", "group", "group_level",
    "include_docs", "conflicts", "meta", "attachments", "update", "update_seq", "key", "keys",
    "sorted", "att_encoding_info"]

/-- The two spellings of options that decide a query of a view; the first one counts if both are
there. -/
def viewSpellings : List (String × String) :=
  [("startkey", "start_key"), ("endkey", "end_key"), ("startkey_docid", "start_key_doc_id"),
    ("endkey_docid", "end_key_doc_id")]

/-- Two requests have the same options for a query of a view. -/
structure SameForView (o o' : Options) : Prop where
  named : AgreeOn viewNames o o'
  /-- The spelling that counts is the same, and so is the value. -/
  spelled : ∀ spellings ∈ viewSpellings,
    o.first? [spellings.1, spellings.2] = o'.first? [spellings.1, spellings.2]

/-- Two errors are the same, but for the name of an option whose value cannot be read. -/
def Respelled (name other : String) (e e' : OptionError) : Prop :=
  e = e' ∨ ∃ (cause : String → Malformed) (detail : String),
    (∀ option, (cause option).message = "invalid value for '" ++ option ++ "': " ++ detail) ∧
    e = .malformed (cause name) ∧ e' = .malformed (cause other)

/-- Every error is the same as itself. -/
theorem Respelled.refl (e : OptionError) : Respelled name other e e := .inl rfl

/-- If the two names are one, the errors are the same. -/
theorem Respelled.eq {e e' : OptionError} (h : Respelled name name e e') : e = e' := by
  obtain rfl | ⟨cause, detail, -, rfl, rfl⟩ := h <;> rfl

/-- A reader's verdict on a value is the same under both names. -/
theorem sameUpTo_accept {α : Type} (reader : Param → Option α) (name other : String)
    (param : Param) :
    SameUpTo (Respelled name other) (accept reader name param) (accept reader other param) := by
  unfold accept
  split
  · exact .accepted _
  · have hvalue : Respelled name other (.malformed (.value name param))
        (.malformed (.value other param)) :=
      .inr ⟨fun option => .value option param, param.text, fun _ => rfl, rfl, rfl⟩
    exact .refused hvalue

/-- A key is read alike under both names. -/
theorem sameUpTo_readKey (name other : String) (param : Param) :
    SameUpTo (Respelled name other) (readKey name param) (readKey other param) := by
  cases param with
  | decoded value => exact .accepted _
  | encoded text =>
    simp only [readKey]
    cases Json.decodeText text with
    | ok value => exact .accepted _
    | error error =>
      have hkey : Respelled name other (.malformed (.key name error))
          (.malformed (.key other error)) :=
        .inr ⟨fun option => .key option error, error.message ++ " in key",
          fun _ => String.append_assoc .., rfl, rfl⟩
      exact .refused hkey

/-- What two requests find for an option is the same, but for the name it is found by. -/
inductive FoundAs (name other : String) :
    Option (String × Param) → Option (String × Param) → Prop
  | same (found : Option (String × Param)) : FoundAs name other found found
  | respelled (param : Param) : FoundAs name other (some (name, param)) (some (other, param))

/-- What is the same is found by the same name. -/
theorem FoundAs.of_eq {found found' : Option (String × Param)} (h : found = found') :
    FoundAs name other found found' := h ▸ .same found

/-- An option found by another name is read alike if its values are. -/
theorem FoundAs.sameUpTo_readFirst {α : Type} {names : List String} {absent : α}
    {read : String → Param → Except OptionError α}
    (h : FoundAs name other (o.first? names) (o'.first? names))
    (hread : ∀ param, SameUpTo (Respelled name other) (read name param) (read other param)) :
    SameUpTo (Respelled name other) (o.readFirst names absent read)
      (o'.readFirst names absent read) := by
  unfold readFirst
  generalize o.first? names = found, o'.first? names = found' at h
  cases h with
  | same => exact .of_eq .refl rfl
  | respelled param => exact hread param

/-- A key found by another name is read alike. -/
theorem FoundAs.sameUpTo_keyOption {names : List String}
    (h : FoundAs name other (o.first? names) (o'.first? names)) :
    SameUpTo (Respelled name other) (o.keyOption names) (o'.keyOption names) :=
  h.sameUpTo_readFirst fun param => (sameUpTo_readKey name other param).map some

/-- A document found by another name is read alike. -/
theorem FoundAs.sameUpTo_docId {names : List String}
    (h : FoundAs name other (o.first? names) (o'.first? names)) :
    SameUpTo (Respelled name other) (o.docId names) (o'.docId names) :=
  h.sameUpTo_readFirst fun param => (sameUpTo_accept _ name other param).map some

section View

variable (hnamed : AgreeOn viewNames o o')
  (hspelled : ∀ spellings ∈ viewSpellings, FoundAs name other
    (o.first? [spellings.1, spellings.2]) (o'.first? [spellings.1, spellings.2]))

include hnamed hspelled

/-- The paging of a request changes only in the name that an error gives. -/
theorem sameUpTo_paging : SameUpTo (Respelled name other) o.paging o'.paging := by
  refine .bind (.of_eq .refl (hnamed.read_eq (by decide) _ _)) fun limit => ?_
  refine .bind (.of_eq .refl (hnamed.read_eq (by decide) _ _)) fun skip => ?_
  refine .bind (.of_eq .refl (hnamed.read_eq (by decide) _ _)) fun descending => ?_
  refine .bind (hspelled ("startkey", "start_key") (by decide)).sameUpTo_keyOption
    fun startKey => ?_
  refine .bind (hspelled ("endkey", "end_key") (by decide)).sameUpTo_keyOption fun endKey => ?_
  refine .bind (.of_eq .refl (hnamed.read_eq (by decide) _ _)) fun inclusiveEnd => ?_
  exact .accepted _

/-- The query of a request changes only in the name that an error gives. -/
theorem sameUpTo_assembleQuery (view : String) :
    SameUpTo (Respelled name other) (o.assembleQuery view) (o'.assembleQuery view) := by
  -- Beyond the range only the two documents have spellings; the other steps are the same.
  refine .bind (sameUpTo_paging hnamed hspelled) fun paging => ?_
  refine .bind (.of_eq .refl (hnamed.mono (by decide)).reduce_eq) fun reduce => ?_
  refine .bind (.of_eq .refl (hnamed.mono (by decide)).group_eq) fun group => ?_
  refine .bind (.of_eq .refl (hnamed.read_eq (by decide) _ _)) fun groupLevel => ?_
  refine .bind (.of_eq .refl rfl) fun _ => ?_
  refine .bind (.of_eq .refl (hnamed.read_eq (by decide) _ _)) fun includeDocs => ?_
  refine .bind (.of_eq .refl (hnamed.mono (by decide)).conflicts_eq) fun conflicts => ?_
  refine .bind (.of_eq .refl (hnamed.read_eq (by decide) _ _)) fun attachments => ?_
  refine .bind (.of_eq .refl (hnamed.read_eq (by decide) _ _)) fun update => ?_
  refine .bind (.of_eq .refl (hnamed.read_eq (by decide) _ _)) fun updateSeq => ?_
  refine .bind (hspelled ("endkey_docid", "end_key_doc_id") (by decide)).sameUpTo_docId
    fun endKeyDocId => ?_
  refine .bind (hspelled ("startkey_docid", "start_key_doc_id") (by decide)).sameUpTo_docId
    fun startKeyDocId => ?_
  refine .bind (.of_eq .refl (hnamed.read_eq (by decide) _ _)) fun key => ?_
  refine .bind (.of_eq .refl (hnamed.read_eq (by decide) _ _)) fun keys => ?_
  refine .bind (.of_eq .refl (hnamed.mono (by decide)).sorted_eq) fun sorted => ?_
  refine .bind (.of_eq .refl (hnamed.read_eq (by decide) _ _)) fun attEncodingInfo => ?_
  exact .accepted _

/-- Requests that find the same options, but for the spelling of one, come to the same result, but
for this spelling. -/
theorem sameUpTo_viewQuery (view : String) :
    SameUpTo (Respelled name other) (o.viewQuery view) (o'.viewQuery view) := by
  rw [viewQuery_eq, viewQuery_eq]
  exact .bind (sameUpTo_assembleQuery hnamed hspelled view) fun q => .of_eq .refl rfl

end View

/-- Requests with the same options for a query of a view come to the same result. -/
theorem SameForView.viewQuery_eq (h : SameForView o o') (view : String) :
    o.viewQuery view = o'.viewQuery view := by
  -- Nothing is respelled here, and a name that is respelled as itself stays.
  have hsame : SameUpTo (Respelled "" "") (o.viewQuery view) (o'.viewQuery view) :=
    sameUpTo_viewQuery h.named (fun spellings hmem => .of_eq (h.spelled spellings hmem)) view
  exact hsame.eq fun _ _ => Respelled.eq

/-- Setting an option leaves other names as they are. -/
theorem agreeOn_insert {names : List String} (h : name ∉ names) (o : Options) (param : Param) :
    AgreeOn names o (o.insert name param) :=
  (agreeApartFrom_insert (List.mem_singleton_self name) o param).agreeOn fun _ hother heq =>
    h (List.mem_singleton.mp heq ▸ hother)

/-- The spellings of an option are no names of other options. -/
theorem not_mem_of_mem_viewSpellings : ∀ spellings ∈ viewSpellings,
    spellings.1 ∉ viewNames ∧ spellings.2 ∉ viewNames ∧ spellings.1 ≠ spellings.2 ∧
    ∀ others ∈ viewSpellings, others = spellings ∨
      spellings.1 ∉ [others.1, others.2] ∧ spellings.2 ∉ [others.1, others.2] := by
  decide

/-- An option of another name is of no account. -/
theorem sameForView_insert_of_unknown (hnamed : name ∉ viewNames)
    (hspelled : ∀ spellings ∈ viewSpellings, name ∉ [spellings.1, spellings.2]) (o : Options)
    (param : Param) : SameForView o (o.insert name param) where
  named := agreeOn_insert hnamed o param
  spelled spellings hmem := (agreeOn_insert (hspelled spellings hmem) o param).first?_eq

/-- The second spelling is of no account where the first one is used. -/
theorem sameForView_insert_of_shadowed {spellings : String × String}
    (hmem : spellings ∈ viewSpellings) (hfirst : o.contains spellings.1 = true) (param : Param) :
    SameForView o (o.insert spellings.2 param) := by
  obtain ⟨-, hnamed, hne, hothers⟩ := not_mem_of_mem_viewSpellings spellings hmem
  refine ⟨agreeOn_insert hnamed o param, fun others hmem' => ?_⟩
  rcases hothers others hmem' with rfl | ⟨-, hapart⟩
  · obtain ⟨found, hfound⟩ := Option.isSome_iff_exists.mp hfirst
    rw [first?_of_get? hfound, first?_of_get? ((KeyMap.get?_insert_ne o hne param).trans hfound)]
  · exact (agreeOn_insert hapart o param).first?_eq

/-- An option that is given by either of its spellings is found by this spelling. -/
theorem foundAs_insert {spellings : String × String} (hmem : spellings ∈ viewSpellings)
    (hfirst : o.get? spellings.1 = none) (param : Param) :
    ∀ others ∈ viewSpellings, FoundAs spellings.1 spellings.2
      (first? (o.insert spellings.1 param) [others.1, others.2])
      (first? (o.insert spellings.2 param) [others.1, others.2]) := by
  obtain ⟨-, -, hne, hothers⟩ := not_mem_of_mem_viewSpellings spellings hmem
  intro others hmem'
  rcases hothers others hmem' with rfl | ⟨hapart, hapart'⟩
  · have hfound : first? (o.insert others.1 param) [others.1, others.2] =
        some (others.1, param) :=
      first?_of_get? (KeyMap.get?_insert_self o others.1 param) _
    have hfound' : first? (o.insert others.2 param) [others.1, others.2] =
        some (others.2, param) := by
      rw [first?_of_absent ((KeyMap.get?_insert_ne o hne param).trans hfirst)]
      exact first?_of_get? (KeyMap.get?_insert_self o others.2 param) _
    rw [hfound, hfound']
    exact .respelled param
  · rw [← (agreeOn_insert hapart o param).first?_eq, ← (agreeOn_insert hapart' o param).first?_eq]
    exact .same _

/-- The members of the body of a search that decide it. -/
def searchNames : List String :=
  ["selector", "limit", "skip", "fields", "conflicts", "meta", "bookmark", "sort"]

/-- The options of the body of a search are its members. -/
theorem exists_ofJson_obj {body : List (String × Json)} (h : Entries.Sorted body) :
    ∃ o, ofJson (.obj body) = pure o ∧
      ∀ name, o.get? name = (Entries.find? name body).map Param.decoded := by
  refine ⟨_, rfl, fun name => ?_⟩
  have hentries := Entries.ofList_of_sorted (h.map Param.decoded)
  exact (congrArg (Entries.find? name) hentries).trans (Entries.find?_map _ name body)

/-- Bodies with the same members that decide a search come to the same result. -/
theorem ofSearch_eq {body body' : List (String × Json)} (hsorted : Entries.Sorted body)
    (hsorted' : Entries.Sorted body')
    (h : ∀ name ∈ searchNames, Entries.find? name body = Entries.find? name body') :
    ViewQuery.ofSearch (.obj body) = ViewQuery.ofSearch (.obj body') := by
  obtain ⟨o, ho, hget⟩ := exists_ofJson_obj hsorted
  obtain ⟨o', ho', hget'⟩ := exists_ofJson_obj hsorted'
  have hagree : AgreeOn searchNames o o' := fun name hname => by
    rw [hget, hget', h name hname]
  have hselector : (Json.obj body).member "selector" = (Json.obj body').member "selector" := by
    rw [Json.member, Json.member, h "selector" (by decide)]
  have hlimit : o.limit = o'.limit := hagree.read_eq (by decide) _ _
  have hskip : o.skip = o'.skip := hagree.read_eq (by decide) _ _
  have hfields : o.fields = o'.fields := hagree.read_eq (by decide) _ _
  have hconflicts : o.conflicts = o'.conflicts := (hagree.mono (by decide)).conflicts_eq
  have hbookmark : o.bookmark = o'.bookmark := hagree.read_eq (by decide) _ _
  have hsort : o.sort = o'.sort := hagree.read_eq (by decide) _ _
  rw [ViewQuery.ofSearch, ViewQuery.ofSearch, ho, ho', pure_bind, pure_bind, hselector, hlimit,
    hskip, hfields, hconflicts, hbookmark, hsort]

/-- A query of a view depends on its options alone, those with two spellings being given by the
first one that is there: requests that have them in common come to the same result. An option of
another name is of no account, and neither is the second spelling beside the first one, whatever its
value is. An option that is given by its second spelling instead of the first one makes no
difference but to its name in the message of a value that cannot be read. A search for documents
depends on eight members of its body alone. -/
theorem queries_depend_on_their_options :
    (∀ (o o' : Options) (view : String), SameForView o o' → o.viewQuery view = o'.viewQuery view) ∧
    (∀ (o : Options) (name : String) (param : Param) (view : String), name ∉ viewNames →
      (∀ spellings ∈ viewSpellings, name ∉ [spellings.1, spellings.2]) →
      viewQuery (o.insert name param) view = o.viewQuery view) ∧
    (∀ (o : Options) (param : Param) (view : String), ∀ spellings ∈ viewSpellings,
      o.contains spellings.1 = true →
      viewQuery (o.insert spellings.2 param) view = o.viewQuery view) ∧
    (∀ (o : Options) (param : Param) (view : String), ∀ spellings ∈ viewSpellings,
      o.get? spellings.1 = none →
      SameUpTo (Respelled spellings.1 spellings.2) (viewQuery (o.insert spellings.1 param) view)
        (viewQuery (o.insert spellings.2 param) view)) ∧
    ∀ body body' : List (String × Json), Entries.Sorted body → Entries.Sorted body' →
      (∀ name ∈ searchNames, Entries.find? name body = Entries.find? name body') →
      ViewQuery.ofSearch (.obj body) = ViewQuery.ofSearch (.obj body') := by
  refine ⟨fun o o' view h => h.viewQuery_eq view, fun o name param view hnamed hspelled => ?_,
    fun o param view spellings hmem hfirst => ?_,
    fun o param view spellings hmem hfirst => ?_, fun _ _ => ofSearch_eq⟩
  · exact ((sameForView_insert_of_unknown hnamed hspelled o param).viewQuery_eq view).symm
  · exact ((sameForView_insert_of_shadowed hmem hfirst param).viewQuery_eq view).symm
  · obtain ⟨hnamed, hnamed', -⟩ := not_mem_of_mem_viewSpellings spellings hmem
    have hagree : AgreeOn viewNames (o.insert spellings.1 param) (o.insert spellings.2 param) :=
      fun name hname => (agreeOn_insert hnamed o param name hname).symm.trans
        (agreeOn_insert hnamed' o param name hname)
    exact sameUpTo_viewQuery hagree (foundAs_insert hmem hfirst param) view

/-- Beside a start key half an array makes no difference as an option of an unknown name, as an
option of searches or as the other spelling. As an end key it is refused by either name. A search
is the same with a member of an unknown name. -/
theorem queries_depend_on_their_options_shadowed :
    let o : Options := .ofList [("startkey", .decoded (.str "a"))]
    let half : Param := .encoded "["
    (∃ q, o.viewQuery "rows" = .ok q ∧ viewQuery (o.insert "stale" half) "rows" = .ok q ∧
      viewQuery (o.insert "bookmark" half) "rows" = .ok q ∧
      viewQuery (o.insert "start_key" half) "rows" = .ok q) ∧
    (∃ e e', viewQuery (o.insert "endkey" half) "rows" = .error e ∧
      viewQuery (o.insert "end_key" half) "rows" = .error e' ∧ Respelled "endkey" "end_key" e e') ∧
    ViewQuery.ofSearch (.obj [("selector", .obj [])]) =
      ViewQuery.ofSearch (.obj [("selector", .obj []), ("stale", .null)]) := by
  intro o half
  obtain ⟨hsame, hunknown, hshadowed, hrespelled, hsearch⟩ := queries_depend_on_their_options
  refine ⟨?_, ?_, ?_⟩
  · obtain ⟨q, hq⟩ : ∃ q, o.viewQuery "rows" = .ok q := exists_eq_ok (by decide +kernel)
    have hstale : SameForView o (o.insert "stale" half) :=
      sameForView_insert_of_unknown (by decide) (by decide) o half
    have hbookmark := hunknown o "bookmark" half "rows" (by decide) (by decide)
    have hstartKey := hshadowed o half "rows" ("startkey", "start_key") (by decide) (by decide)
    exact ⟨q, hq, (hsame _ _ "rows" hstale).symm.trans hq, hbookmark.trans hq, hstartKey.trans hq⟩
  · have hboth := hrespelled o half "rows" ("endkey", "end_key") (by decide) rfl
    obtain ⟨e, he⟩ : ∃ e, viewQuery (o.insert "endkey" half) "rows" = .error e :=
      exists_eq_error (by decide +kernel)
    rw [he] at hboth
    generalize hother : viewQuery (o.insert "end_key" half) "rows" = other at hboth
    cases hboth with
    | refused h => exact ⟨e, _, he, rfl, h⟩
  · refine hsearch _ _ (List.pairwise_singleton _ _) ?_ ?_
    · exact List.pairwise_pair.mpr (by decide)
    · simp [searchNames, Entries.find?]

end Options

end DocQuery
