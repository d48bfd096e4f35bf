import DocQuery.CommandLine.Run
import DocQuery.Proofs.Collation.Sorting
import DocQuery.Proofs.CommandLine.Lines

/-!
# Lines in collation order

The command that shows values in collation order sorts the lines of its input by the values on them.
Each line is an encoded key, and among keys that decode the values decide, so the lines are sorted
as keys are.
-/

namespace DocQuery.CommandLine

open Collation (compareKey compareValue sortKeys)

/-- Whether the value on a line is equal to a value in collation order. -/
def holdsEqual (value : Json) (line : String) : Bool :=
  match Json.decodeText line with
  | .ok held => compareValue held value = .eq
  | .error _ => false

/-- A line holds an equal value exactly if it decodes to one. -/
theorem holdsEqual_iff {value : Json} {line : String} :
    holdsEqual value line = true ↔
      ∃ held, Json.decodeText line = .ok held ∧ compareValue held value = .eq := by
  unfold holdsEqual
  split <;> simp [*]

/-- Lines are ordered as keys by the values on them. -/
theorem compareKey_of_decodeText {a b : String} {x y : Json} (hx : Json.decodeText a = .ok x)
    (hy : Json.decodeText b = .ok y) : compareKey a b = compareValue x y :=
  Collation.compareEncoded_of_decode hx hy

/-- Decoded lines are shown in the order of keys. -/
theorem collate_of_decodeLines {bytes : List UInt8} {entries : List (String × Json)}
    (h : decodeLines bytes = .ok entries)
    (hdecode : ∀ entry ∈ entries, Json.decodeText entry.1 = .ok entry.2) :
    collate (.ok bytes) = .ok (sortKeys (entries.map Prod.fst)) := by
  have hsorted : (entries.mergeSort fun a b => (compareValue a.2 b.2).isLE).map Prod.fst =
      sortKeys (entries.map Prod.fst) := by
    refine List.map_mergeSort fun a ha b hb => ?_
    rw [compareKey_of_decodeText (hdecode a ha) (hdecode b hb)]
  rw [← hsorted]
  change (decodeLines bytes >>= fun _ => _) = _
  rw [h]
  rfl

/-- A failure to decode is the failure of the command. -/
theorem collate_of_decodeLines_error {bytes : List UInt8} {failure : Failure}
    (h : decodeLines bytes = .error failure) : collate (.ok bytes) = .error failure := by
  change (decodeLines bytes >>= fun _ => _) = _
  rw [h]
  rfl

/-- If every line that holds more than blanks is a JSON text, the lines shown are these lines, in
collation order of their values, those with equal values in the order given: the lines sorted as
keys. Otherwise nothing is shown and the command fails. -/
theorem collate_shows_sorted_lines (file : Option String) {text : String} {all : List String}
    (hlines : HasLines text all) :
    let filled := all.filter fun line => !Unicode.isBlankText line
    let outcome := Outcome.ofResult (Command.run (.ok text.toUTF8.toList) (.collate file))
    ((∀ line ∈ filled, ∃ value, Json.decodeText line = .ok value) →
      ∃ shown : List String,
        outcome = ⟨0, String.join (shown.map (· ++ "\n")), ""⟩ ∧
        shown.Perm filled ∧
        shown.Pairwise (fun a b => ∀ x y, Json.decodeText a = .ok x → Json.decodeText b = .ok y →
          compareValue x y ≠ .gt) ∧
        (∀ value, shown.filter (holdsEqual value) = filled.filter (holdsEqual value)) ∧
        shown = sortKeys filled) ∧
    ((∃ line ∈ filled, ∀ value, Json.decodeText line ≠ .ok value) →
      outcome.code = 1 ∧ outcome.output = "") := by
  intro filled outcome
  have hfilled : filledLines text = filled := by
    rw [filledLines, hasLines_iff.mp hlines]
  constructor
  · intro hdecode
    obtain ⟨entries, hentries⟩ := (exists_decodeFrom_eq_ok_iff 1).mpr hdecode
    obtain ⟨hmap, hvalues⟩ := decodeFrom_eq_ok_iff.mp hentries
    have hread : decodeLines text.toUTF8.toList = .ok entries := by
      rw [decodeLines_toUTF8, hfilled, hentries]
    have hcollate : collate (.ok text.toUTF8.toList) = .ok (sortKeys filled) := by
      rw [collate_of_decodeLines hread hvalues, hmap]
    refine ⟨sortKeys filled, ?_, Collation.sortKeys_perm filled, ?_, fun value => ?_, rfl⟩
    · change Outcome.ofResult (collate (.ok text.toUTF8.toList)) = _
      rw [hcollate]
      rfl
    · refine (Collation.pairwise_sortKeys filled).imp fun hab x y hx hy => ?_
      rwa [← compareKey_of_decodeText hx hy]
    · refine Collation.filter_sortKeys (fun a b ha hb => ?_) filled
      obtain ⟨x, hx, hxv⟩ := holdsEqual_iff.mp ha
      obtain ⟨y, hy, hyv⟩ := holdsEqual_iff.mp hb
      rw [compareKey_of_decodeText hx hy, Std.TransCmp.congr_left hxv, Std.OrientedCmp.eq_symm hyv]
      decide
  · rintro ⟨line, hline, hbad⟩
    cases hread : decodeFrom 1 filled with
    | ok entries =>
      obtain ⟨value, hvalue⟩ := (exists_decodeFrom_eq_ok_iff 1).mp ⟨entries, hread⟩ line hline
      exact absurd hvalue (hbad value)
    | error failure =>
      have hcollate : collate (.ok text.toUTF8.toList) = .error failure :=
        collate_of_decodeLines_error (by rw [decodeLines_toUTF8, hfilled, hread])
      have houtcome : outcome = Outcome.ofResult (.error failure) :=
        congrArg Outcome.ofResult hcollate
      rw [houtcome]
      exact ⟨rfl, rfl⟩

/-- Of lines with one and with two, an empty line and a carriage return between them, the two ones
come first, in the order given; with an open bracket on a line nothing is shown. -/
theorem collate_shows_sorted_lines_ones :
    HasLines "2\n\n1.0\r\n1" ["2", "", "1.0", "1"] ∧
    Outcome.ofResult (Command.run (.ok "2\n\n1.0\r\n1".toUTF8.toList) (.collate none)) =
      ⟨0, "1.0\n1\n2\n", ""⟩ ∧
    (Outcome.ofResult (Command.run (.ok "1\n[".toUTF8.toList) (.collate none))).code = 1 := by
  have hlines : HasLines "2\n\n1.0\r\n1" ["2", "", "1.0", "1"] := hasLines_iff.mpr rfl
  have hbroken : HasLines "1\n[" ["1", "["] := hasLines_iff.mpr rfl
  refine ⟨hlines, ?_, ?_⟩
  · have hfilled : (["2", "", "1.0", "1"].filter fun line => !Unicode.isBlankText line) =
        ["2", "1.0", "1"] := by decide +kernel
    have hsorts := (collate_shows_sorted_lines none hlines).1
    rw [hfilled] at hsorts
    have hdecode : ∀ line ∈ ["2", "1.0", "1"], ∃ value, Json.decodeText line = .ok value := by
      simp only [List.forall_mem_cons, List.not_mem_nil, false_imp_iff, implies_true, and_true]
      exact ⟨exists_eq_ok (by decide +kernel), exists_eq_ok (by decide +kernel),
        exists_eq_ok (by decide +kernel)⟩
    obtain ⟨shown, houtcome, -, -, -, rfl⟩ := hsorts hdecode
    have htwo : compareKey "2" "1.0" = .gt := by decide +kernel
    have hequal : compareKey "1.0" "1" = .eq := by decide +kernel
    have hone : compareKey "2" "1" = .gt := by decide +kernel
    have hsorted : sortKeys ["2", "1.0", "1"] = ["1.0", "1", "2"] := by
      simp [sortKeys, List.mergeSort, htwo, hequal, hone]
    rw [houtcome, hsorted]
    rfl
  · have hfails := (collate_shows_sorted_lines none hbroken).2
    refine (hfails ⟨"[", by decide +kernel, fun value h => ?_⟩).1
    obtain ⟨error, herror⟩ : ∃ error, Json.decodeText "[" = .error error :=
      exists_eq_error (by decide +kernel)
    cases h.symm.trans herror

end DocQuery.CommandLine
