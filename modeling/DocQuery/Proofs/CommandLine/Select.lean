import DocQuery.CommandLine.Run
import DocQuery.Proofs.CommandLine.Lines
import DocQuery.Proofs.Json.ReadBack

/-!
# Lines that satisfy a selector

The command that filters documents shows the lines whose values satisfy its selector, as they are
and in their order, or it fails and shows nothing. Each line is decided by itself, so an input that
is cut between two lines is filtered part by part.
-/

namespace DocQuery.CommandLine

/-- Whether the value on a line satisfies a selector. -/
def holdsSatisfying (s : Selector) (line : String) : Bool :=
  match Json.decodeText line with
  | .ok value => s.isSatisfiedBy value
  | .error _ => false

/-- Whether a source is a text whose lines that hold more than blanks are documents, each of them a
JSON text. -/
def HoldsDocuments (source : Source) (documents : List String) : Prop :=
  ∃ text all, source = .ok text.toUTF8.toList ∧ HasLines text all ∧
    documents = (all.filter fun line => !Unicode.isBlankText line) ∧
    ∀ line ∈ documents, ∃ value, Json.decodeText line = .ok value

/-- Whether bytes end where a line does. -/
def EndsLineBytes (bytes : List UInt8) : Prop := bytes = [] ∨ bytes.getLast? = some 0x0A

/-- Documents are what the lines of bytes are decoded to. -/
theorem holdsDocuments_iff {bytes : List UInt8} {documents : List String} :
    HoldsDocuments (.ok bytes) documents ↔
      ∃ entries, decodeLines bytes = .ok entries ∧ entries.map Prod.fst = documents := by
  constructor
  · rintro ⟨text, all, hbytes, hlines, rfl, hdecode⟩
    obtain rfl := Except.ok.inj hbytes
    obtain ⟨entries, hentries⟩ := (exists_decodeFrom_eq_ok_iff 1).mpr hdecode
    refine ⟨entries, ?_, (decodeFrom_eq_ok_iff.mp hentries).1⟩
    rw [decodeLines_toUTF8, filledLines, hasLines_iff.mp hlines, hentries]
  · rintro ⟨entries, hentries, rfl⟩
    unfold decodeLines at hentries
    split at hentries
    case h_2 => cases hentries
    case h_1 text htext =>
      obtain ⟨hmap, hdecode⟩ := decodeFrom_eq_ok_iff.mp hentries
      refine ⟨text, lines text, ?_, hasLines_iff.mpr rfl, hmap, ?_⟩
      · rw [Utf8.decode?_eq_some_iff.mp htext]
      · intro line hline
        obtain ⟨entry, hentry, rfl⟩ := List.mem_map.mp hline
        exact ⟨entry.2, hdecode entry hentry⟩

/-- Decoded lines are filtered as the lines are. -/
theorem map_filter_of_decodeLines {bytes : List UInt8} {entries : List (String × Json)}
    (h : decodeLines bytes = .ok entries) (s : Selector) :
    (entries.filter fun entry => s.isSatisfiedBy entry.2).map Prod.fst =
      (entries.map Prod.fst).filter (holdsSatisfying s) := by
  unfold decodeLines at h
  split at h
  case h_2 => cases h
  case h_1 =>
    rw [List.filter_map]
    refine congrArg _ (List.filter_congr fun entry hentry => ?_)
    rw [Function.comp_apply, holdsSatisfying, (decodeFrom_eq_ok_iff.mp h).2 entry hentry]

/-- The command succeeds exactly on a selector and documents, and shows the documents that satisfy
the selector. -/
theorem select_eq_ok_iff {selector : String} {source : Source} {shown : List String} :
    select selector source = .ok shown ↔
      ∃ s documents, Selector.parse selector.toUTF8.toList = .ok s ∧
        HoldsDocuments source documents ∧ shown = documents.filter (holdsSatisfying s) := by
  constructor
  · intro hselect
    obtain ⟨s, hs, hread⟩ := bind_eq_ok_iff.mp hselect
    obtain ⟨bytes, rfl, hdecode⟩ := bind_eq_ok_iff.mp hread
    obtain ⟨entries, hentries, hshown⟩ := bind_eq_ok_iff.mp hdecode
    cases hshown
    exact ⟨s, _, mapError_eq_ok_iff.mp hs, holdsDocuments_iff.mpr ⟨entries, hentries, rfl⟩,
      map_filter_of_decodeLines hentries s⟩
  · rintro ⟨s, documents, hs, hdocuments, rfl⟩
    obtain ⟨text, -, rfl, -⟩ := id hdocuments
    obtain ⟨entries, hentries, rfl⟩ := holdsDocuments_iff.mp hdocuments
    refine bind_eq_ok_iff.mpr ⟨s, mapError_eq_ok_iff.mpr hs, ?_⟩
    refine bind_eq_ok_iff.mpr ⟨_, rfl, ?_⟩
    refine bind_eq_ok_iff.mpr ⟨entries, hentries, ?_⟩
    exact congrArg Except.ok (map_filter_of_decodeLines hentries s)

/-- Where a line ends in the bytes of a text, the text can be cut. -/
theorem exists_append_of_endsLineBytes {text : String} {first second : List UInt8}
    (h : first ++ second = text.toUTF8.toList) (hend : EndsLineBytes first) :
    ∃ before after : String, text = before ++ after ∧ EndsLine before.toList ∧
      first = before.toUTF8.toList ∧ second = after.toUTF8.toList := by
  rw [Utf8.toList_toUTF8] at h
  rcases hend with rfl | hlast
  · refine ⟨"", text, (String.empty_append).symm, .inl rfl, ?_, ?_⟩
    · rw [Utf8.toList_toUTF8]
      rfl
    · rw [Utf8.toList_toUTF8, ← h, List.nil_append]
  · obtain ⟨before, after, htext, hbefore, hfirst, hsecond⟩ :=
      Utf8.exists_append_of_encode (d := '\n') (by decide) h.symm hlast
    refine ⟨String.ofList before, String.ofList after, ?_, .inr ?_, ?_, ?_⟩
    · rw [← String.ofList_append, ← htext, String.ofList_toList]
    · rw [String.toList_ofList, hbefore]
    · rw [Utf8.toList_toUTF8, String.toList_ofList, hfirst]
    · rw [Utf8.toList_toUTF8, String.toList_ofList, hsecond]

/-- Documents that are cut where a line ends are the documents of both parts. -/
theorem HoldsDocuments.exists_append {first second : List UInt8} {documents : List String}
    (h : HoldsDocuments (.ok (first ++ second)) documents) (hend : EndsLineBytes first) :
    ∃ before after, HoldsDocuments (.ok first) before ∧ HoldsDocuments (.ok second) after ∧
      documents = before ++ after := by
  obtain ⟨text, all, hbytes, hlines, hdocuments, hdecode⟩ := h
  obtain ⟨before, after, htext, hbefore, hfirst, hsecond⟩ :=
    exists_append_of_endsLineBytes (Except.ok.inj hbytes) hend
  have hall : all = lines before ++ lines after := by
    rw [← hasLines_iff.mp hlines, htext]
    exact hasLines_iff.mp ((hasLines_iff.mpr rfl).append hbefore (hasLines_iff.mpr rfl))
  rw [hall, List.filter_append] at hdocuments
  rw [hdocuments, List.forall_mem_append] at hdecode
  exact ⟨_, _, ⟨before, _, congrArg _ hfirst, hasLines_iff.mpr rfl, rfl, hdecode.1⟩,
    ⟨after, _, congrArg _ hsecond, hasLines_iff.mpr rfl, rfl, hdecode.2⟩, hdocuments⟩

/-- A command that ends with code zero shows lines. -/
theorem exists_of_code_eq_zero {result : Result} (h : (Outcome.ofResult result).code = 0) :
    ∃ shown, result = .ok shown := by
  cases result with
  | ok shown => exact ⟨shown, rfl⟩
  | error failure => cases h

/-- What the command leaves behind on a selector and documents. -/
theorem outcome_of_holdsDocuments {selector : String} {source : Source} {s : Selector}
    {documents : List String} (hs : Selector.parse selector.toUTF8.toList = .ok s)
    (h : HoldsDocuments source documents) :
    Outcome.ofResult (select selector source) =
      ⟨0, String.join ((documents.filter (holdsSatisfying s)).map (· ++ "\n")), ""⟩ := by
  rw [select_eq_ok_iff.mpr ⟨s, documents, hs, h, rfl⟩]
  rfl

/-- If the selector can be parsed and the input is a text whose lines, but for those that hold
blanks only, are JSON texts, the lines shown are those whose values satisfy the selector, as they
are and in their order. Otherwise nothing is shown and the command fails. An input that is filtered
can be cut where a line ends: both parts are filtered, and what is shown of one comes after what is
shown of the other. -/
theorem select_shows_satisfying_lines (selector : String) (file : Option String)
    (source : Source) :
    let outcome (source : Source) := Outcome.ofResult (Command.run source (.select selector file))
    (∀ s documents, Selector.parse selector.toUTF8.toList = .ok s →
      HoldsDocuments source documents →
      outcome source =
        ⟨0, String.join ((documents.filter (holdsSatisfying s)).map (· ++ "\n")), ""⟩) ∧
    ((¬∃ s documents, Selector.parse selector.toUTF8.toList = .ok s ∧
        HoldsDocuments source documents) →
      (outcome source).code = 1 ∧ (outcome source).output = "") ∧
    ∀ first second, source = .ok (first ++ second) → EndsLineBytes first →
      (outcome source).code = 0 →
      (outcome (.ok first)).code = 0 ∧ (outcome (.ok second)).code = 0 ∧
      (outcome source).output = (outcome (.ok first)).output ++ (outcome (.ok second)).output := by
  intro outcome
  refine ⟨fun s documents => outcome_of_holdsDocuments, fun hnone => ?_,
    fun first second hsource hend hcode => ?_⟩
  · cases hselect : select selector source with
    | ok shown =>
      obtain ⟨s, documents, hs, hdocuments, -⟩ := select_eq_ok_iff.mp hselect
      exact absurd ⟨s, documents, hs, hdocuments⟩ hnone
    | error failure =>
      have hfails : outcome source = Outcome.ofResult (.error failure) :=
        congrArg Outcome.ofResult hselect
      rw [hfails]
      exact ⟨rfl, rfl⟩
  · obtain ⟨shown, hselect⟩ := exists_of_code_eq_zero hcode
    obtain ⟨s, documents, hs, hdocuments, -⟩ := select_eq_ok_iff.mp hselect
    obtain ⟨before, after, hbefore, hafter, hboth⟩ :=
      HoldsDocuments.exists_append (hsource ▸ hdocuments) hend
    have hwhole : outcome source = _ := outcome_of_holdsDocuments hs hdocuments
    have hfirst : outcome (.ok first) = _ := outcome_of_holdsDocuments hs hbefore
    have hsecond : outcome (.ok second) = _ := outcome_of_holdsDocuments hs hafter
    rw [hwhole, hfirst, hsecond, hboth, List.filter_append, List.map_append, String.join_append]
    exact ⟨rfl, rfl, rfl⟩

/-- Of four lines, one of them empty, the two with a true member are shown, without the carriage
return and with the blanks. Cut after the second line, both parts show one of them. An open bracket
on the second line leaves nothing to show. -/
theorem select_shows_satisfying_lines_members :
    let selector := "\x7b\"a\":true\x7d"
    let first := "\x7b\"a\":true\x7d\r\n\n"
    let second := "\x7b\"a\":1\x7d\n \x7b\"a\":true,\"b\":0\x7d"
    let broken := "\x7b\"a\":true\x7d\n["
    let outcome (input : String) :=
      Outcome.ofResult (Command.run (.ok input.toUTF8.toList) (.select selector none))
    outcome (first ++ second) =
      ⟨0, "\x7b\"a\":true\x7d\n \x7b\"a\":true,\"b\":0\x7d\n", ""⟩ ∧
    (outcome first).output ++ (outcome second).output = (outcome (first ++ second)).output ∧
    (outcome broken).code = 1 ∧ (outcome broken).output = "" := by
  intro selector first second broken outcome
  have hdecode : Json.decodeText selector = .ok (.obj [("a", .bool true)]) :=
    Json.decodeText_eq_ok_of_text (by decide +kernel)
  have hselector : Selector.parse selector.toUTF8.toList =
      .ok (.field (.ofName "a") (.condition (.compare .eq (.bool true)))) :=
    bind_eq_ok_iff.mpr ⟨_, mapError_eq_ok_iff.mpr hdecode, rfl⟩
  have hdocuments : HoldsDocuments (.ok (first ++ second).toUTF8.toList)
      ["\x7b\"a\":true\x7d", "\x7b\"a\":1\x7d", " \x7b\"a\":true,\"b\":0\x7d"] := by
    refine ⟨first ++ second, _, rfl, hasLines_iff.mpr rfl, by decide +kernel, ?_⟩
    simp only [List.forall_mem_cons, List.not_mem_nil, false_imp_iff, implies_true, and_true]
    exact ⟨exists_eq_ok (by decide +kernel), exists_eq_ok (by decide +kernel),
      exists_eq_ok (by decide +kernel)⟩
  obtain ⟨hshows, -, hcut⟩ :=
    select_shows_satisfying_lines selector none (.ok (first ++ second).toUTF8.toList)
  have hshown : outcome (first ++ second) =
      ⟨0, "\x7b\"a\":true\x7d\n \x7b\"a\":true,\"b\":0\x7d\n", ""⟩ := by
    refine (hshows _ _ hselector hdocuments).trans ?_
    decide +kernel
  have hbytes : (first ++ second).toUTF8.toList = first.toUTF8.toList ++ second.toUTF8.toList := by
    decide +kernel
  refine ⟨hshown, ?_, ?_⟩
  · have hends : EndsLineBytes first.toUTF8.toList := .inr (by decide +kernel)
    exact (hcut _ _ (congrArg _ hbytes) hends (congrArg Outcome.code hshown)).2.2.symm
  · refine (select_shows_satisfying_lines selector none _).2.1 ?_
    rintro ⟨s, documents, -, hdocuments⟩
    obtain ⟨entries, hentries, -⟩ := holdsDocuments_iff.mp hdocuments
    have hrefused : (decodeLines broken.toUTF8.toList).toBool = false := by decide +kernel
    obtain ⟨failure, hfailure⟩ := exists_eq_error hrefused
    cases hentries.symm.trans hfailure

end DocQuery.CommandLine
