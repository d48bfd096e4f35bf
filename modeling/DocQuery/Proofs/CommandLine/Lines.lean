import DocQuery.CommandLine.Lines
import DocQuery.Proofs.Steps
import DocQuery.Proofs.Text.Utf8
import Mathlib.Data.List.Forall2

/-!
# The lines of an input

What the lines of a text are is stated apart from how they are split off. A text that goes on where
a line ends has the lines of both parts. Decoding lines succeeds exactly if every one of them is a
JSON text, and otherwise the first one that is not is reported.
-/

namespace DocQuery.CommandLine

/-- How characters fall into lines. A line ends at a line feed, with the carriage return before it
if there is one; what follows the last line feed is a line if it is not empty. -/
inductive FallsInto : List Char → List (List Char) → Prop
  | nothing : FallsInto [] []
  | unended {line : List Char} (hne : line ≠ []) (hline : '\n' ∉ line) : FallsInto line [line]
  | ended {line rest : List Char} {lines : List (List Char)} (hline : '\n' ∉ line)
      (hreturn : line.getLast? ≠ some '\r') (hrest : FallsInto rest lines) :
      FallsInto (line ++ '\n' :: rest) (line :: lines)
  | returned {line rest : List Char} {lines : List (List Char)} (hline : '\n' ∉ line)
      (hrest : FallsInto rest lines) :
      FallsInto (line ++ '\r' :: '\n' :: rest) (line :: lines)

/-- Whether texts are the lines of a text. -/
def HasLines (text : String) (all : List String) : Prop :=
  FallsInto text.toList (all.map String.toList)

/-- What follows the last line break is a line of its own, unless it is empty. -/
theorem splitLines_of_not_mem {line : List Char} (h : '\n' ∉ line) (read : List Char) :
    splitLines read line =
      if (read.reverse ++ line).isEmpty then [] else [read.reverse ++ line] := by
  induction line generalizing read with
  | nil => cases read <;> simp [splitLines]
  | cons c line ih =>
    rw [List.mem_cons, not_or] at h
    rw [splitLines, if_neg (Ne.symm h.1), ih h.2, List.reverse_cons, List.append_assoc,
      List.singleton_append]

/-- A line is split off at the first line feed. -/
theorem splitLines_append {line : List Char} (h : '\n' ∉ line) (read rest : List Char) :
    splitLines read (line ++ '\n' :: rest) =
      dropReturn (read.reverse ++ line) :: splitLines [] rest := by
  induction line generalizing read with
  | nil => simp [splitLines]
  | cons c line ih =>
    rw [List.mem_cons, not_or] at h
    rw [List.cons_append, splitLines, if_neg (Ne.symm h.1), ih h.2, List.reverse_cons,
      List.append_assoc, List.singleton_append]

/-- Without a carriage return at its end, a line stays as it is. -/
theorem dropReturn_of_ne {line : List Char} (h : line.getLast? ≠ some '\r') :
    dropReturn line = line := if_neg h

/-- A carriage return at the end of a line is left out. -/
theorem dropReturn_append (line : List Char) : dropReturn (line ++ ['\r']) = line := by
  simp [dropReturn]

/-- Characters after those of a line read so far fall into the lines that are split off them. -/
theorem fallsInto_splitLines {read : List Char} (h : '\n' ∉ read) (chars : List Char) :
    FallsInto (read.reverse ++ chars) (splitLines read chars) := by
  induction chars generalizing read with
  | nil =>
    rw [List.append_nil, splitLines]
    split
    case isTrue hempty =>
      rw [List.isEmpty_iff.mp hempty]
      exact .nothing
    case isFalse hne => exact .unended (by simpa using hne) (by simpa using h)
  | cons c chars ih =>
    rw [splitLines]
    split
    case isTrue hfeed =>
      have hrest : FallsInto chars (splitLines [] chars) := ih List.not_mem_nil
      rw [hfeed]
      by_cases hreturn : read.reverse.getLast? = some '\r'
      · obtain ⟨line, hline⟩ := List.getLast?_eq_some_iff.mp hreturn
        have hmem : '\n' ∉ line := fun hmem => h (by
          rw [← List.mem_reverse, hline]
          exact List.mem_append_left _ hmem)
        rw [hline, dropReturn_append, List.append_assoc]
        exact .returned hmem hrest
      · rw [dropReturn_of_ne hreturn]
        exact .ended (by simpa using h) hreturn hrest
    case isFalse hfeed =>
      have hread : '\n' ∉ c :: read := by
        rw [List.mem_cons, not_or]
        exact ⟨Ne.symm hfeed, h⟩
      have hrest := ih hread
      rwa [List.reverse_cons, List.append_assoc, List.singleton_append] at hrest

/-- Characters fall into the lines that are split off them, and into no others. -/
theorem fallsInto_iff {chars : List Char} {lines : List (List Char)} :
    FallsInto chars lines ↔ splitLines [] chars = lines := by
  constructor
  · intro h
    induction h with
    | nothing => rfl
    | unended hne hline =>
      rw [splitLines_of_not_mem hline, List.reverse_nil, List.nil_append, if_neg]
      simpa using hne
    | ended hline hreturn hrest ih =>
      rw [splitLines_append hline, List.reverse_nil, List.nil_append, dropReturn_of_ne hreturn, ih]
    | @returned line rest lines hline hrest ih =>
      have hmem : '\n' ∉ line ++ ['\r'] := by simpa using hline
      have hsplit := splitLines_append hmem [] rest
      rwa [List.reverse_nil, List.nil_append, dropReturn_append, ih, List.append_assoc,
        List.singleton_append] at hsplit
  · rintro rfl
    exact fallsInto_splitLines List.not_mem_nil chars

/-- The lines of a text are those it is split into. -/
theorem hasLines_iff {text : String} {all : List String} :
    HasLines text all ↔ lines text = all := by
  have hmap : (lines text).map String.toList = splitLines [] text.toList := by
    simp [lines, Function.comp_def]
  rw [HasLines, fallsInto_iff, ← hmap]
  exact (List.map_injective_iff.mpr fun _ _ => String.toList_injective).eq_iff

/-- Whether characters end where a line does. -/
def EndsLine (chars : List Char) : Prop := chars = [] ∨ chars.getLast? = some '\n'

/-- What ends in a line break does so without its first line too. -/
theorem EndsLine.of_append {line rest : List Char} (h : EndsLine (line ++ '\n' :: rest)) :
    EndsLine rest := by
  cases rest with
  | nil => exact .inl rfl
  | cons c rest =>
    have hlast := h.resolve_left (List.append_ne_nil_of_right_ne_nil _ (List.cons_ne_nil _ _))
    rw [List.getLast?_append, List.getLast?_cons_cons, List.getLast?_cons, Option.some_or] at hlast
    rw [← List.getLast?_cons] at hlast
    exact .inr hlast

/-- Where a line ends, the lines of what follows come after the lines before. -/
theorem FallsInto.append {first second : List Char} {lines lines' : List (List Char)}
    (h : FallsInto first lines) (hend : EndsLine first) (h' : FallsInto second lines') :
    FallsInto (first ++ second) (lines ++ lines') := by
  induction h with
  | nothing => exact h'
  | unended hne hline => exact absurd (List.mem_of_getLast? (hend.resolve_left hne)) hline
  | ended hline hreturn _ ih =>
    rw [List.append_assoc]
    exact .ended hline hreturn (ih hend.of_append)
  | @returned line rest lines hline _ ih =>
    rw [List.append_assoc]
    refine .returned hline (ih ?_)
    have hreturned : EndsLine ((line ++ ['\r']) ++ '\n' :: rest) := by
      rwa [List.append_assoc]
    exact hreturned.of_append

/-- The lines of two texts, of which the first ends a line, are those of both together. -/
theorem HasLines.append {first second : String} {all all' : List String} (h : HasLines first all)
    (hend : EndsLine first.toList) (h' : HasLines second all') :
    HasLines (first ++ second) (all ++ all') := by
  rw [HasLines, String.toList_append, List.map_append]
  exact FallsInto.append h hend h'

/-- Lines are decoded to entries of them with the values that they stand for. -/
theorem decodeFrom_eq_ok_iff {number : Nat} {lines : List String} {entries : List (String × Json)} :
    decodeFrom number lines = .ok entries ↔
      entries.map Prod.fst = lines ∧ ∀ entry ∈ entries, Json.decodeText entry.1 = .ok entry.2 := by
  induction lines generalizing number entries with
  | nil =>
    rw [decodeFrom, Except.ok.injEq, List.map_eq_nil_iff, eq_comm]
    exact ⟨fun h => ⟨h, by simp [h]⟩, And.left⟩
  | cons line lines ih =>
    rw [decodeFrom]
    cases hline : Json.decodeText line with
    | error error =>
      refine ⟨nofun, fun ⟨hmap, hdecode⟩ => ?_⟩
      obtain ⟨entry, rest, rfl, rfl, -⟩ := List.map_eq_cons_iff.mp hmap
      cases hline.symm.trans (hdecode entry List.mem_cons_self)
    | ok value =>
      simp only [bind_eq_ok_iff, ih]
      constructor
      · rintro ⟨rest, ⟨rfl, hrest⟩, h⟩
        cases h
        exact ⟨rfl, List.forall_mem_cons.mpr ⟨hline, hrest⟩⟩
      · rintro ⟨hmap, hdecode⟩
        obtain ⟨⟨line, other⟩, rest, rfl, rfl, hrest⟩ := List.map_eq_cons_iff.mp hmap
        rw [List.forall_mem_cons] at hdecode
        cases hline.symm.trans hdecode.1
        exact ⟨rest, ⟨hrest, hdecode.2⟩, rfl⟩

/-- Lines are decoded if every one of them is a JSON text. -/
theorem exists_decodeFrom_eq_ok_iff (number : Nat) {lines : List String} :
    (∃ entries, decodeFrom number lines = .ok entries) ↔
      ∀ line ∈ lines, ∃ value, Json.decodeText line = .ok value := by
  simp only [decodeFrom_eq_ok_iff]
  constructor
  · rintro ⟨entries, rfl, hdecode⟩ line hline
    obtain ⟨entry, hentry, rfl⟩ := List.mem_map.mp hline
    exact ⟨entry.2, hdecode entry hentry⟩
  · intro hdecode
    have : Nonempty Json := ⟨.null⟩
    choose! value hvalue using hdecode
    refine ⟨lines.map fun line => (line, value line), by simp [Function.comp_def], ?_⟩
    simpa using hvalue

/-- Lines are not decoded if one of them is no JSON text. -/
theorem exists_decodeFrom_eq_error (number : Nat) {lines : List String} {line : String}
    (hline : line ∈ lines) (hbad : ∀ value, Json.decodeText line ≠ .ok value) :
    ∃ failure, decodeFrom number lines = .error failure := by
  cases hread : decodeFrom number lines with
  | error failure => exact ⟨failure, rfl⟩
  | ok entries =>
    obtain ⟨value, hvalue⟩ := (exists_decodeFrom_eq_ok_iff number).mp ⟨entries, hread⟩ line hline
    exact absurd hvalue (hbad value)

/-- The first line that is not a JSON text is the one reported, by its place among the lines that
are decoded. -/
theorem exists_of_decodeFrom_eq_error {number : Nat} {lines : List String} {failure : Failure}
    (h : decodeFrom number lines = .error failure) :
    ∃ before line after error, lines = before ++ line :: after ∧
      (∀ other ∈ before, ∃ value, Json.decodeText other = .ok value) ∧
      Json.decodeText line = .error error ∧
      failure = ⟨"Invalid JSON on line " ++ toString (number + before.length),
        some error.message⟩ := by
  induction lines generalizing number with
  | nil => cases h
  | cons line lines ih =>
    rw [decodeFrom] at h
    cases hline : Json.decodeText line with
    | error error =>
      rw [hline] at h
      cases h
      exact ⟨[], line, lines, error, rfl, nofun, hline, rfl⟩
    | ok value =>
      rw [hline] at h
      rcases bind_eq_error_iff.mp h with h | ⟨entries, -, h⟩
      · obtain ⟨before, bad, after, error, rfl, hbefore, hbad, rfl⟩ := ih h
        refine ⟨line :: before, bad, after, error, rfl, ?_, hbad, ?_⟩
        · exact List.forall_mem_cons.mpr ⟨⟨value, hline⟩, hbefore⟩
        · rw [List.length_cons, Nat.add_right_comm, Nat.add_assoc]
      · cases h

/-- The input is read as the text whose bytes it is. -/
theorem decodeLines_toUTF8 (text : String) :
    decodeLines text.toUTF8.toList = decodeFrom 1 (filledLines text) := by
  rw [decodeLines, Utf8.toList_toUTF8, Utf8.decode?_encode, String.ofList_toList]

end DocQuery.CommandLine
