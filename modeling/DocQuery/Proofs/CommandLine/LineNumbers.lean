import DocQuery.Proofs.CommandLine.Collate
import DocQuery.Proofs.CommandLine.Select
import Mathlib.Data.List.Basic

/-!
# Line numbers of errors

A line that is not a JSON text is reported with a number. Lines that hold blanks only are left out
before lines are numbered, so the number falls short of the place of the line in the input by the
number of such lines before it.
-/

namespace DocQuery.CommandLine

/-- Whether a command comes to decode the lines of its input. -/
inductive DecodesLines : Command → Prop
  | collate (file : Option String) : DecodesLines (.collate file)
  | select {selector : String} {s : Selector} (file : Option String)
      (hselector : Selector.parse selector.toUTF8.toList = .ok s) :
      DecodesLines (.select selector file)

/-- A failure to decode lines is the failure of the command. -/
theorem DecodesLines.run_eq_error {command : Command} (h : DecodesLines command)
    {bytes : List UInt8} {failure : Failure} (hfailure : decodeLines bytes = .error failure) :
    command.run (.ok bytes) = .error failure := by
  cases h with
  | collate file => exact collate_of_decodeLines_error hfailure
  | select file hselector =>
    refine bind_eq_error_iff.mpr (.inr ⟨_, mapError_eq_ok_iff.mpr hselector, ?_⟩)
    exact bind_eq_error_iff.mpr (.inr ⟨bytes, rfl, bind_eq_error_iff.mpr (.inl hfailure)⟩)

section Filter

variable {α : Type}

/-- What is at a place among the filtered members of a list is at a place of the list. -/
theorem exists_append_of_filter_eq_append {p : α → Bool} {as decoded rest : List α} {a : α}
    (h : as.filter p = decoded ++ a :: rest) :
    ∃ before after, as = before ++ a :: after ∧ before.filter p = decoded ∧ p a = true := by
  obtain ⟨first, second, rfl, hfirst, hsecond⟩ := List.filter_eq_append_iff.mp h
  obtain ⟨left, after, rfl, hleft, ha, -⟩ := List.filter_eq_cons_iff.mp hsecond
  refine ⟨first ++ left, after, (List.append_assoc ..).symm, ?_, ha⟩
  rw [List.filter_append, hfirst, List.filter_eq_nil_iff.mpr hleft, List.append_nil]

end Filter

/-- If a line that holds more than blanks is not a JSON text, the first such line is the one
reported, with its number among the lines that hold more than blanks. This number and the number of
lines before it that hold blanks only make up its place in the input, where the first place is
one. -/
theorem line_numbers_leave_blank_lines_out {text : String} {all : List String}
    (hlines : HasLines text all)
    (hbad : ∃ line ∈ all, Unicode.isBlankText line = false ∧
      ∀ value, Json.decodeText line ≠ .ok value) :
    ∃ before line after error number,
      all = before ++ line :: after ∧
      Unicode.isBlankText line = false ∧ Json.decodeText line = .error error ∧
      (∀ other ∈ before, Unicode.isBlankText other = true ∨
        ∃ value, Json.decodeText other = .ok value) ∧
      number + before.countP Unicode.isBlankText = before.length + 1 ∧
      ∀ command, DecodesLines command → command.run (.ok text.toUTF8.toList) =
        .error ⟨"Invalid JSON on line " ++ toString number, some error.message⟩ := by
  have hdecode : decodeLines text.toUTF8.toList =
      decodeFrom 1 (all.filter fun line => !Unicode.isBlankText line) := by
    rw [decodeLines_toUTF8, filledLines, hasLines_iff.mp hlines]
  have hmem {line : String} {given : List String} (hline : line ∈ given)
      (hblank : Unicode.isBlankText line = false) :
      line ∈ given.filter fun line => !Unicode.isBlankText line :=
    List.mem_filter.mpr ⟨hline, by rw [hblank]; rfl⟩
  obtain ⟨bad, hline, hblank, hundecoded⟩ := hbad
  obtain ⟨failure, hfailure⟩ := exists_decodeFrom_eq_error 1 (hmem hline hblank) hundecoded
  obtain ⟨decoded, line, rest, error, hsplit, hdecoded, herror, rfl⟩ :=
    exists_of_decodeFrom_eq_error hfailure
  obtain ⟨before, after, hall, hbefore, hline⟩ := exists_append_of_filter_eq_append hsplit
  refine ⟨before, line, after, error, 1 + decoded.length, hall, by simpa using hline, herror,
    fun other hother => ?_, ?_, fun command hcommand => ?_⟩
  · cases hblank : Unicode.isBlankText other with
    | true => exact .inl rfl
    | false => exact .inr (hdecoded other (hbefore ▸ hmem hother hblank))
  · have hlength := before.length_eq_length_filter_add Unicode.isBlankText
    rw [hbefore, ← List.countP_eq_length_filter] at hlength
    omega
  · exact hcommand.run_eq_error (hdecode.trans hfailure)

/-- Of a one, an empty line and an open bracket, the bracket is in place three, one line before it
holds blanks only, and the number reported is two. -/
theorem line_numbers_leave_blank_lines_out_bracket :
    HasLines "1\n\n[" ["1", "", "["] ∧
    ∃ error, Json.decodeText "[" = .error error ∧
      ∀ command, DecodesLines command → command.run (.ok "1\n\n[".toUTF8.toList) =
        .error ⟨"Invalid JSON on line 2", some error.message⟩ := by
  have hlines : HasLines "1\n\n[" ["1", "", "["] := hasLines_iff.mpr rfl
  have hbracket : ∃ error, Json.decodeText "[" = .error error := exists_eq_error (by decide +kernel)
  have hone : ∃ value, Json.decodeText "1" = .ok value := exists_eq_ok (by decide +kernel)
  obtain ⟨before, line, after, error, number, hall, hblank, herror, -, hnumber, hrun⟩ :=
    line_numbers_leave_blank_lines_out hlines ⟨"[", by decide, by decide +kernel, fun value h => by
      obtain ⟨error, herror⟩ := hbracket
      cases h.symm.trans herror⟩
  -- The line in place one decodes, and the one in place two is blank.
  match before, hall with
  | [], hall =>
    cases hall
    obtain ⟨value, hvalue⟩ := hone
    cases hvalue.symm.trans herror
  | [_], hall =>
    cases hall
    cases hblank
  | [_, _], hall =>
    cases hall
    have hcount : ["1", ""].countP Unicode.isBlankText = 1 := by decide +kernel
    obtain rfl : number = 2 := by
      rw [hcount] at hnumber
      exact Nat.succ.inj hnumber
    exact ⟨hlines, error, herror, hrun⟩
  | _ :: _ :: _ :: before, hall =>
    have hlength := congrArg List.length hall
    simp at hlength

/-- A blank line and an open bracket: the bracket is in place two, and reported as line one. -/
theorem number_of_line_after_blank_line :
    HasLines "\n[" ["", "["] ∧
    (["", "["].findIdx fun line =>
      !Unicode.isBlankText line && !(Json.decodeText line).toBool) + 1 = 2 ∧
    Outcome.ofResult (Command.run (.ok "\n[".toUTF8.toList) (.collate none)) =
      ⟨1, "", "Error: Invalid JSON on line 1\n\nCaused by:\n" ++
        "    EOF while parsing a list at line 1 column 1\n"⟩ := by
  refine ⟨hasLines_iff.mpr rfl, by decide +kernel, by decide +kernel⟩

end DocQuery.CommandLine
