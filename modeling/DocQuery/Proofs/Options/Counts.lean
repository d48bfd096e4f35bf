import DocQuery.Options.Changes
import DocQuery.Options.View
import DocQuery.Proofs.Options.Integers
import DocQuery.Proofs.Options.Reading

/-!
# Counts from integers

The level of groups, the time to wait for changes, the sequence number where they start and the
number of them are unsigned integers of 64 bits, given as a number or as a string. A decimal integer
counts the same in both forms, although as a number it is an unsigned integer, a signed one or a
rounded one, depending on its sign and its length.
-/

namespace DocQuery

namespace Param

/-- A value gives a number to each of the options that count something; without a number it is
refused. -/
structure GivesCounts (param : Param) (n : Option Nat) : Prop where
  groupLevel : ∀ o : Options, o.get? "group_level" = some param →
    o.groupLevel = n.elim (.error (.malformed (.value "group_level" param))) .ok
  timeout : ∀ o : Options, o.get? "timeout" = some param →
    o.timeout = n.elim (.error (.malformed (.value "timeout" param))) .ok
  since : ∀ o : Options, o.get? "since" = some param →
    o.since = n.elim (.error (.malformed (.sequence param))) fun n => .ok (some (.sequence n))
  /-- Zero stands for one change. -/
  changesLimit : ∀ o : Options, o.get? "limit" = some param →
    o.changesLimit = n.elim (.error (.malformed (.value "limit" param))) fun n => .ok (max 1 n)

/-- Two values give the same numbers to the options that count something, or are refused with the
same messages. -/
structure CountAlike (p q : Param) : Prop where
  groupLevel : ∀ o o' : Options, o.get? "group_level" = some p → o'.get? "group_level" = some q →
    o.groupLevel.mapError OptionError.message = o'.groupLevel.mapError OptionError.message
  timeout : ∀ o o' : Options, o.get? "timeout" = some p → o'.get? "timeout" = some q →
    o.timeout.mapError OptionError.message = o'.timeout.mapError OptionError.message
  since : ∀ o o' : Options, o.get? "since" = some p → o'.get? "since" = some q →
    o.since.mapError OptionError.message = o'.since.mapError OptionError.message
  changesLimit : ∀ o o' : Options, o.get? "limit" = some p → o'.get? "limit" = some q →
    o.changesLimit.mapError OptionError.message = o'.changesLimit.mapError OptionError.message

/-- The counts are those of the unsigned integer that a value is read as. -/
theorem givesCounts_unsigned? {param : Param} (h : param.string? ≠ some "now") :
    param.GivesCounts param.unsigned? where
  groupLevel o ho := by
    rw [Options.groupLevel, Options.read_of_get? ho, Options.accept]
    cases param.unsigned? <;> rfl
  timeout o ho := by
    rw [Options.timeout, Options.read_of_get? ho, Options.accept]
    cases param.unsigned? <;> rfl
  since o ho := by
    rw [Options.since, Options.read_of_get? ho, Options.readSince, if_neg h]
    cases param.unsigned? <;> rfl
  changesLimit o ho := by
    rw [Options.changesLimit, Options.read_of_get? ho, Options.accept]
    cases param.unsigned? <;> rfl

/-- Messages show no more of a value than its text. -/
theorem message_value {p q : Param} (h : p.text = q.text) (name : String) :
    (OptionError.malformed (.value name p)).message =
      (OptionError.malformed (.value name q)).message :=
  congrArg ("invalid value for '" ++ name ++ "': " ++ ·) h

/-- Options with the same text are refused with the same message where a sequence number is read. -/
theorem message_sequence {p q : Param} (h : p.text = q.text) :
    (OptionError.malformed (.sequence p)).message = (OptionError.malformed (.sequence q)).message :=
  congrArg ("malformed sequence supplied in 'since' parameter: " ++ ·) h

/-- Values that give the same numbers and have the same text cannot be told apart. -/
theorem GivesCounts.alike {p q : Param} {n : Option Nat} (hp : p.GivesCounts n)
    (hq : q.GivesCounts n) (h : p.text = q.text) : p.CountAlike q where
  groupLevel o o' ho ho' := by
    rw [hp.groupLevel o ho, hq.groupLevel o' ho']
    cases n with
    | none => exact congrArg Except.error (message_value h "group_level")
    | some n => rfl
  timeout o o' ho ho' := by
    rw [hp.timeout o ho, hq.timeout o' ho']
    cases n with
    | none => exact congrArg Except.error (message_value h "timeout")
    | some n => rfl
  since o o' ho ho' := by
    rw [hp.since o ho, hq.since o' ho']
    cases n with
    | none => exact congrArg Except.error (message_sequence h)
    | some n => rfl
  changesLimit o o' ho ho' := by
    rw [hp.changesLimit o ho, hq.changesLimit o' ho']
    cases n with
    | none => exact congrArg Except.error (message_value h "limit")
    | some n => rfl

/-- A word is not an integer literal. -/
theorem text_ne_now (l : IntegerLiteral) : l.text ≠ "now" := by
  intro h
  have hread := Spelled.integer?_literal l
  have hword : Spelled.integer? "now".toList = none := by decide
  rw [h, hword] at hread
  cases hread

/-- Messages show a number by its text. -/
theorem text_num (x : Number) : text (.decoded (.num x)) = x.text := String.ofList_toList

end Param

/-- A decimal integer counts the same as a number and as a string: it is its value, if this is an
unsigned integer of 64 bits, and refused otherwise, with the same messages if the number is written
as the string. -/
theorem counts_of_integer_literals {l : IntegerLiteral} (hzero : l.text ≠ "-0") {x : Number}
    (hx : Json.decodeText l.text = .ok (.num x)) :
    Param.GivesCounts (.decoded (.num x)) l.unsigned? ∧
      Param.GivesCounts (.decoded (.str l.text)) l.unsigned? ∧
      (x.text = l.text → Param.CountAlike (.decoded (.num x)) (.decoded (.str l.text))) := by
  have hnumber : Param.GivesCounts (.decoded (.num x)) l.unsigned? := by
    rw [← Param.unsigned?_num_literal hzero hx]
    exact Param.givesCounts_unsigned? nofun
  have hstring : Param.GivesCounts (.decoded (.str l.text)) l.unsigned? := by
    rw [← Param.unsigned?_str_literal hzero]
    exact Param.givesCounts_unsigned? fun h => Param.text_ne_now l (Option.some.inj h)
  exact ⟨hnumber, hstring, fun htext => hnumber.alike hstring ((Param.text_num x).trans htext)⟩

/-- The first integer that is too long for 64 bits is refused in both forms, and a negative one with
the same messages. -/
theorem counts_of_integer_literals_refused :
    let long : IntegerLiteral :=
      ⟨false, "18446744073709551616".toList, by decide, List.all_eq_true.mp (by decide), by decide⟩
    let negative : IntegerLiteral :=
      ⟨true, "9223372036854775808".toList, by decide, List.all_eq_true.mp (by decide), by decide⟩
    let x : Number := .float (.ofInt (2 ^ 64))
    let least : Number := .int (-2 ^ 63) (by decide)
    long.text ≠ "-0" ∧ Json.decodeText long.text = .ok (.num x) ∧ x.text ≠ long.text ∧
      Param.GivesCounts (.decoded (.num x)) none ∧
      Param.GivesCounts (.decoded (.str long.text)) none ∧
      Json.decodeText negative.text = .ok (.num least) ∧
      Param.CountAlike (.decoded (.num least)) (.decoded (.str negative.text)) := by
  intro long negative x least
  have hzero : long.text ≠ "-0" := by decide +kernel
  have hx : Json.decodeText long.text = .ok (.num x) :=
    IntegerLiteral.decodeText_eq_ok_iff.mpr (by decide +kernel)
  have hleast : Json.decodeText negative.text = .ok (.num least) :=
    IntegerLiteral.decodeText_eq_ok_iff.mpr (by decide +kernel)
  have hnone : long.unsigned? = none := by decide +kernel
  obtain ⟨hnumber, hstring, -⟩ := counts_of_integer_literals hzero hx
  obtain ⟨-, -, halike⟩ := counts_of_integer_literals (by decide +kernel) hleast
  exact ⟨hzero, hx, by decide +kernel, hnone ▸ hnumber, hnone ▸ hstring, hleast,
    halike (by decide +kernel)⟩

end DocQuery
