import DocQuery.Proofs.Json.Text
import DocQuery.Proofs.Sql.Patterns
import DocQuery.Proofs.View.ReducedRows

/-!
# Documents of built-in views

The key of a document in a built-in view is the text of its id. The views tell documents apart by a
pattern of this text. The underscore in the pattern stands for any one character, so an id is taken
for that of a local document if `local/` follows its first character, whichever this is, unless the
character is escaped in the text. For ids that begin with an underscore, the documents are those
with the prefix.
-/

namespace DocQuery

open Sql (ColumnOrder IsLiteral Row accepts isLike isLike_literal isLike_prefix
  isLike_underscore)

namespace Json

/-- The characters that follow the backslash in escapes. -/
def escapeLetters : List Char := ['"', '\\', 'n', 'r', 't', 'b', 'f', 'u']

/-- A character stands for itself or is written as an escape. -/
theorem escape_cases (c : Char) :
    escape c = [c] ∨ ∃ letter ∈ escapeLetters, ∃ digits, escape c = '\\' :: letter :: digits := by
  unfold escape
  split_ifs
  · exact .inr ⟨'"', by decide, _, rfl⟩
  · exact .inr ⟨'\\', by decide, _, rfl⟩
  · exact .inl rfl
  · exact .inr ⟨'n', by decide, _, rfl⟩
  · exact .inr ⟨'r', by decide, _, rfl⟩
  · exact .inr ⟨'t', by decide, _, rfl⟩
  · exact .inr ⟨'b', by decide, _, rfl⟩
  · exact .inr ⟨'f', by decide, _, rfl⟩
  · exact .inr ⟨'u', by decide, _, rfl⟩

/-- Quotes and backslashes do not stand for themselves. -/
theorem ne_of_escape_eq {c : Char} (h : escape c = [c]) : c ≠ '"' ∧ c ≠ '\\' := by
  constructor <;> rintro rfl <;> simp [escape] at h

/-- The inside of a string begins with characters that stand for themselves if its text does. -/
theorem prefix_flatMap_escape {literals : List Char} (h : ∀ c ∈ literals, escape c = [c])
    (cs : List Char) : literals <+: cs.flatMap escape ++ ['"'] ↔ literals <+: cs := by
  induction literals generalizing cs with
  | nil => simp
  | cons c literals ih =>
    rw [List.forall_mem_cons] at h
    obtain ⟨hquote, hbackslash⟩ := ne_of_escape_eq h.1
    cases cs with
    | nil => simp [List.cons_prefix_cons, hquote]
    | cons d cs =>
      rw [List.flatMap_cons]
      obtain hplain | ⟨letter, -, digits, hescape⟩ := escape_cases d
      · rw [hplain, List.singleton_append, List.cons_append, List.cons_prefix_cons,
          List.cons_prefix_cons, ih h.2]
      · have hne : c ≠ d := by
          rintro rfl
          cases h.1.symm.trans hescape
        simp [hescape, List.cons_prefix_cons, hbackslash, hne]

/-- The inside of a string has literals after its first character, which is not escaped, if its text
has them after any one character. -/
theorem exists_prefix_flatMap_escape {first : Char} {literals : List Char}
    (hletter : first ∉ escapeLetters) (h : ∀ c ∈ first :: literals, escape c = [c])
    (cs : List Char) :
    (∃ c rest, cs.flatMap escape ++ ['"'] = c :: rest ∧ first :: literals <+: rest) ↔
      ∃ c, escape c = [c] ∧ c :: first :: literals <+: cs := by
  cases cs with
  | nil => simp
  | cons d cs =>
    rw [List.flatMap_cons]
    obtain hplain | ⟨letter, hmem, digits, hescape⟩ := escape_cases d
    · rw [hplain, List.singleton_append, List.cons_append]
      constructor
      · rintro ⟨c, rest, heq, hprefix⟩
        cases heq
        exact ⟨d, hplain, List.cons_prefix_cons.mpr ⟨rfl, (prefix_flatMap_escape h cs).mp hprefix⟩⟩
      · rintro ⟨c, -, hprefix⟩
        obtain ⟨-, hrest⟩ := List.cons_prefix_cons.mp hprefix
        exact ⟨d, _, rfl, (prefix_flatMap_escape h cs).mpr hrest⟩
    · rw [hescape]
      constructor
      · rintro ⟨c, rest, heq, hprefix⟩
        cases heq
        exact absurd ((List.cons_prefix_cons.mp hprefix).1 ▸ hmem) hletter
      · rintro ⟨c, hplain, hprefix⟩
        obtain ⟨rfl, -⟩ := List.cons_prefix_cons.mp hprefix
        cases hplain.symm.trans hescape

end Json

/-- Whether characters follow the first character of a text, whichever this is, unless it is
escaped. -/
def FollowAny (literals : List Char) (s : String) : Prop :=
  ∃ c, Json.escape c = [c] ∧ c :: literals <+: s.toList

/-- In a text that begins with an underscore, this is what the characters follow. -/
theorem followAny_iff {literals : List Char} {s : String} (h : s.toList.head? = some '_') :
    FollowAny literals s ↔ '_' :: literals <+: s.toList := by
  constructor
  · rintro ⟨c, -, later, heq⟩
    rw [← heq] at h ⊢
    cases h
    exact ⟨later, rfl⟩
  · exact fun hprefix => ⟨'_', by decide, hprefix⟩

/-- A word after an underscore is the pattern of the texts of ids in which the word follows any one
character. -/
theorem isLike_word_iff (word : String)
    (hletter : ∃ first rest, word.toList = first :: rest ∧ first ∉ Json.escapeLetters)
    (hplain : ∀ c ∈ word.toList, Json.escape c = [c] ∧ IsLiteral c) (id : String) :
    isLike ('"' :: '_' :: (word.toList ++ ['%'])) (Json.str id).text.toList = true ↔
      FollowAny word.toList id := by
  obtain ⟨first, rest, hword, hletter⟩ := hletter
  rw [hword] at hplain ⊢
  have hquote : IsLiteral '"' := by decide
  have htext : (Json.str id).text.toList = '"' :: (id.toList.flatMap Json.escape ++ ['"']) :=
    String.toList_ofList
  rw [htext, isLike_literal hquote]
  simp only [List.cons.injEq, true_and, exists_eq_left', isLike_underscore,
    isLike_prefix fun c hc => (hplain c hc).2]
  exact Json.exists_prefix_flatMap_escape hletter (fun c hc => (hplain c hc).1) id.toList

/-- The rows of a built-in view are those whose keys are like its pattern, or are not. -/
theorem accepts_like_iff (order : ColumnOrder) (bound : List String) (row : Row) {q : ViewQuery}
    {negated : Bool} {pattern : String} (h : q.rowRestrictions = [.like .key negated pattern]) :
    accepts order row q.rowRestrictions bound = true ↔
      (isLike pattern.toList (row .key).toList = true ↔ negated = false) := by
  rw [Sql.accepts_eq fun r => ViewQuery.plain_of_mem_rowRestrictions, h, List.all_cons,
    List.all_nil, Bool.and_true, Sql.Restriction.holds]
  cases negated <;> simp

namespace Options

/-- Without options, the built-in views take a document for a local one if `local/` follows any one
character of its id, and for a design document if `design/` does; all documents are those that are
not taken for local ones. For an id that begins with an underscore, these are the documents whose
ids start with `_local/` and with `_design/`. -/
theorem documents_of_builtin_views (order : ColumnOrder) (bound : List String) {row : Row}
    {id : String} (hkey : row .key = (Json.str id).text) :
    ∃ locals designs all : ViewQuery,
      viewQuery (.ofList []) ViewName.localDocs = .ok locals ∧
      viewQuery (.ofList []) ViewName.designDocs = .ok designs ∧
      viewQuery (.ofList []) ViewName.allDocs = .ok all ∧
      (accepts order row locals.rowRestrictions bound = true ↔ FollowAny "local/".toList id) ∧
      (accepts order row designs.rowRestrictions bound = true ↔ FollowAny "design/".toList id) ∧
      (accepts order row all.rowRestrictions bound = true ↔ ¬ FollowAny "local/".toList id) ∧
      (id.toList.head? = some '_' →
        (accepts order row locals.rowRestrictions bound = true ↔
          "_local/".toList <+: id.toList) ∧
        (accepts order row designs.rowRestrictions bound = true ↔
          "_design/".toList <+: id.toList) ∧
        (accepts order row all.rowRestrictions bound = true ↔
          ¬ "_local/".toList <+: id.toList)) := by
  have hlocal : isLike "\"_local/%".toList (Json.str id).text.toList = true ↔
      FollowAny "local/".toList id :=
    isLike_word_iff "local/" ⟨'l', _, rfl, by decide⟩
      (List.forall_iff_forall_mem.mp (by decide)) id
  have hdesign : isLike "\"_design/%".toList (Json.str id).text.toList = true ↔
      FollowAny "design/".toList id :=
    isLike_word_iff "design/" ⟨'d', _, rfl, by decide⟩
      (List.forall_iff_forall_mem.mp (by decide)) id
  have hlocals : accepts order row (ViewQuery.ofView ViewName.localDocs).rowRestrictions bound =
      true ↔ FollowAny "local/".toList id := by
    rw [accepts_like_iff order bound row rfl, hkey, hlocal]
    simp
  have hdesigns : accepts order row (ViewQuery.ofView ViewName.designDocs).rowRestrictions bound =
      true ↔ FollowAny "design/".toList id := by
    rw [accepts_like_iff order bound row rfl, hkey, hdesign]
    simp
  have hall : accepts order row (ViewQuery.ofView ViewName.allDocs).rowRestrictions bound =
      true ↔ ¬ FollowAny "local/".toList id := by
    rw [accepts_like_iff order bound row rfl, hkey, hlocal]
    simp
  refine ⟨_, _, _, rfl, rfl, rfl, hlocals, hdesigns, hall, fun hunderscore => ?_⟩
  exact ⟨hlocals.trans (followAny_iff hunderscore), hdesigns.trans (followAny_iff hunderscore),
    hall.trans (not_congr (followAny_iff hunderscore))⟩

/-- The document `_local/"a"` is local, although its text has escapes. -/
theorem documents_of_builtin_views_escaped :
    let order : ColumnOrder := fun _ => Collation.compareKey
    let row : Row := fun _ => "\"_local/\\\"a\\\"\""
    ∃ locals designs all : ViewQuery,
      viewQuery (.ofList []) ViewName.localDocs = .ok locals ∧
      viewQuery (.ofList []) ViewName.designDocs = .ok designs ∧
      viewQuery (.ofList []) ViewName.allDocs = .ok all ∧
      accepts order row locals.rowRestrictions [] = true ∧
      accepts order row designs.rowRestrictions [] = false ∧
      accepts order row all.rowRestrictions [] = false := by
  intro order row
  have hkey : row .key = (Json.str "_local/\"a\"").text := by decide
  obtain ⟨locals, designs, all, hlocals, hdesigns, hall, -, -, -, hkinds⟩ :=
    documents_of_builtin_views order [] hkey
  obtain ⟨hlocal, hdesign, hother⟩ := hkinds (by decide)
  refine ⟨locals, designs, all, hlocals, hdesigns, hall, hlocal.mpr (by decide), ?_, ?_⟩
  · rw [← Bool.not_eq_true, hdesign]
    decide
  · rw [← Bool.not_eq_true, hother]
    decide

/-- The document `xlocal/a` is taken for a local one, and is not among all documents, although its
id does not start with `_local/`. -/
theorem document_taken_for_local :
    let order : ColumnOrder := fun _ => Collation.compareKey
    let row : Row := fun _ => (Json.str "xlocal/a").text
    ¬ "_local/".toList <+: "xlocal/a".toList ∧
    ∃ locals all : ViewQuery,
      viewQuery (.ofList []) ViewName.localDocs = .ok locals ∧
      viewQuery (.ofList []) ViewName.allDocs = .ok all ∧
      accepts order row locals.rowRestrictions [] = true ∧
      accepts order row all.rowRestrictions [] = false := by
  intro order row
  exact ⟨by decide, _, _, rfl, rfl, by decide +kernel, by decide +kernel⟩

end Options

end DocQuery
