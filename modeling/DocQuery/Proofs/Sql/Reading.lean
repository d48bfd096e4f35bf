import DocQuery.Proofs.Sql.Placeholders

/-!
# Reading predicates

What the text of a predicate says, word by word: a column, then the sign of a comparison or the
words of another test, then placeholders or a pattern. The text that a predicate is given reads as
the predicate, so the meaning of predicates is that of their texts.
-/

namespace DocQuery.Sql

/-- The first word of a text, and what follows the blank after it. -/
def splitWord : List Char → List Char × List Char
  | [] => ([], [])
  | c :: rest =>
    if c = ' ' then ([], rest) else (c :: (splitWord rest).1, (splitWord rest).2)

/-- The column with a name. -/
def columnOf? : String → Option Column
  | "view.key" => some .key
  | "view.id" => some .docId
  | "view.first_key" => some .firstKey
  | "view.last_key" => some .lastKey
  | "results.id" => some .changedId
  | _ => none

/-- The comparison with a sign. -/
def comparisonOf? : String → Option Comparison
  | "=" => some .eq
  | "<>" => some .ne
  | "<" => some .lt
  | "<=" => some .lte
  | ">" => some .gt
  | ">=" => some .gte
  | _ => none

/-- A pattern without the quotes around it. -/
def unquote (text : List Char) : String := String.ofList (text.drop 1).dropLast

/-- The test of a column that a word and what follows it stand for. -/
def readTest? (column : Column) (rest : List Char) : String → Option Predicate
  | "IN" => some (.oneOf column (mentions rest))
  | "LIKE" => some (.like column false (unquote rest))
  | "NOT" => some (.like column true (unquote (splitWord rest).2))
  | sign => do
    let comparison ← comparisonOf? sign
    let placeholder ← (mentions rest).head?
    return .compare column comparison placeholder

/-- The predicate that a text stands for. -/
def readPredicate? (text : String) : Option Predicate :=
  let name := splitWord text.toList
  let test := splitWord name.2
  (columnOf? (String.ofList name.1)).bind fun column =>
    readTest? column test.2 (String.ofList test.1)

/-- Whether a row satisfies the predicate that a text stands for. -/
def textHolds (order : ColumnOrder) (row : Row) (values : List String) (text : String) : Bool :=
  (readPredicate? text).any (Predicate.holds order row values)

/-- A word ends at the first blank. -/
theorem splitWord_append {word : List Char} (h : ' ' ∉ word) (rest : List Char) :
    splitWord (word ++ ' ' :: rest) = (word, rest) := by
  induction word with
  | nil => rfl
  | cons c others ih =>
    rw [List.mem_cons, not_or] at h
    rw [List.cons_append, splitWord, if_neg (Ne.symm h.1), ih h.2]

/-- The inside of a quoted pattern is the pattern. -/
theorem unquote_quoted (pattern : String) :
    unquote ('\'' :: (pattern.toList ++ ['\''])) = pattern := by
  rw [unquote, List.drop_one, List.tail_cons, List.dropLast_concat, String.ofList_toList]

/-- The text of a column with a test is read as a test of the column. -/
theorem readPredicate?_of_words {text word : String} {column : Column} {rest : List Char}
    (htext : text.toList = column.text.toList ++ ' ' :: (word.toList ++ ' ' :: rest))
    (hword : ' ' ∉ word.toList) : readPredicate? text = readTest? column rest word := by
  have hcolumn : ' ' ∉ column.text.toList := by cases column <;> decide
  have hname : columnOf? column.text = some column := by cases column <;> rfl
  simp only [readPredicate?, htext, splitWord_append hcolumn, splitWord_append hword,
    String.ofList_toList, hname, Option.bind_some]

/-- The text of a predicate stands for the predicate. -/
theorem readPredicate?_text {p : Predicate} (h : p.Plain) : readPredicate? p.text = some p := by
  cases p with
  | compare column comparison placeholder =>
    have hword : ' ' ∉ (comparisonText comparison).toList := by cases comparison <;> decide
    have htext : (Predicate.compare column comparison placeholder).text.toList =
        column.text.toList ++ ' ' :: ((comparisonText comparison).toList ++
          ' ' :: (placeholderText placeholder).toList) := by
      simp [Predicate.text]
    rw [readPredicate?_of_words htext hword]
    cases comparison <;> simp [readTest?, comparisonOf?, comparisonText, mentions_placeholderText]
  | oneOf column placeholders =>
    have hword : ' ' ∉ "IN".toList := by decide
    have htext : (Predicate.oneOf column placeholders).text.toList =
        column.text.toList ++ ' ' :: ("IN".toList ++
          ' ' :: (placeholderList placeholders).toList) := by
      simp [Predicate.text, placeholderList]
    rw [readPredicate?_of_words htext hword, readTest?, mentions_placeholderList]
  | like column negated pattern =>
    have hlike : ' ' ∉ "LIKE".toList := by decide
    cases negated with
    | false =>
      have htext : (Predicate.like column false pattern).text.toList =
          column.text.toList ++
            ' ' :: ("LIKE".toList ++ ' ' :: '\'' :: (pattern.toList ++ ['\''])) := by
        simp [Predicate.text]
      rw [readPredicate?_of_words htext hlike, readTest?, unquote_quoted]
    | true =>
      have hnot : ' ' ∉ "NOT".toList := by decide
      have htext : (Predicate.like column true pattern).text.toList =
          column.text.toList ++ ' ' :: ("NOT".toList ++
            ' ' :: ("LIKE".toList ++ ' ' :: '\'' :: (pattern.toList ++ ['\'']))) := by
        simp [Predicate.text]
      rw [readPredicate?_of_words htext hnot, readTest?, splitWord_append hlike, unquote_quoted]

/-- A row satisfies the texts of predicates if it satisfies the predicates. -/
theorem all_textHolds {predicates : List Predicate} (h : ∀ p ∈ predicates, p.Plain)
    (order : ColumnOrder) (row : Row) (values : List String) :
    (predicates.map Predicate.text).all (textHolds order row values) =
      predicates.all (Predicate.holds order row values) := by
  rw [List.all_map, Bool.eq_iff_iff, List.all_eq_true, List.all_eq_true]
  refine forall₂_congr fun p hp => ?_
  rw [Function.comp_apply, textHolds, readPredicate?_text (h p hp), Option.any_some]

/-- Whether a row satisfies the texts of restrictions that are bound after other values, under the
list of values afterwards. -/
def accepts (order : ColumnOrder) (row : Row) (restrictions : List Restriction)
    (bound : List String) : Bool :=
  let statement := Restriction.bindAll restrictions bound
  (statement.1.map Predicate.text).all (textHolds order row statement.2)

/-- The texts of restrictions say what the restrictions do, whatever is bound before them. -/
theorem accepts_eq {restrictions : List Restriction} (h : ∀ r ∈ restrictions, r.Plain)
    (order : ColumnOrder) (row : Row) (bound : List String) :
    accepts order row restrictions bound = restrictions.all (Restriction.holds order row) := by
  have hplain : ∀ p ∈ (Restriction.bindAll restrictions bound).1, p.Plain :=
    fun p => Restriction.plain_of_mem_bindAll h
  rw [accepts, all_textHolds hplain]
  exact Restriction.holds_bindAll (List.prefix_refl _)

end DocQuery.Sql
