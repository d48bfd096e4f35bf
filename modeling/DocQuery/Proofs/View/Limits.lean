import DocQuery.Options.View
import DocQuery.Proofs.Options.Integers
import DocQuery.Proofs.Options.Reading

/-!
# Limits from integers

The number of rows returned or skipped may be given as a number or as a string. A number is read
exactly or refused. An integer of the signed 64-bit range is read exactly from a string as well. An
integer beyond the range is not refused as a string, but taken to the end of the range, unless it
rounds to no finite number.
-/

namespace DocQuery

/-- The number of rows skipped is not negative, whatever it is read from. -/
theorem Options.skip_nonneg {o : Options} {skip : Int} (h : o.skip = .ok skip) : 0 ≤ skip := by
  obtain rfl | ⟨name, param, h⟩ := readFirst_eq_ok h
  · exact le_refl 0
  · have hfilter := accept_eq_ok_iff.mp h
    rw [Option.filter_eq_some_iff] at hfilter
    exact of_decide_eq_true hfilter.2

/-- A value gives an integer as the limit, and as the skip, if it is not negative; without an
integer it is refused. -/
structure Param.GivesLimits (param : Param) (n : Option Int) : Prop where
  limit : ∀ o : Options, o.get? "limit" = some param →
    o.limit = match n with
      | some n => .ok n
      | none => .error (.malformed (.value "limit" param))
  skip : ∀ o : Options, o.get? "skip" = some param →
    o.skip = match n.filter (0 ≤ ·) with
      | some n => .ok n
      | none => .error (.malformed (.value "skip" param))

namespace Param

/-- The limits are those of the signed integer that a value is read as. -/
theorem givesLimits_signed? (param : Param) : param.GivesLimits param.signed? where
  limit o h := by
    rw [Options.limit, Options.read_of_get? h, Options.accept]
    cases param.signed? <;> rfl
  skip o h := by
    rw [Options.skip, Options.read_of_get? h, Options.accept]
    cases param.signed?.filter (0 ≤ ·) <;> rfl

end Param

/-- A number, however it is represented, is a limit exactly if its value is an integer of the signed
64-bit range, and then of that value, and a skip if the integer is not negative either. Any other
number is refused. -/
theorem limits_of_numbers (x : Number) :
    (∃ n : Option Int, Param.GivesLimits (.decoded (.num x)) n ∧
      ∀ k, n = some k ↔ x.Denotes k ∧ -2 ^ 63 ≤ k ∧ k < 2 ^ 63) ∧
    ∀ (o : Options) (skip : Int), o.skip = .ok skip → 0 ≤ skip := by
  refine ⟨⟨_, Param.givesLimits_signed? _, fun k => ?_⟩, fun o skip => Options.skip_nonneg⟩
  rw [Param.signed?_num_eq_some_iff, Number.isSigned_iff]
  rfl

/-- The least integer of the range is read from a binary64 number, minus zero as zero, and the first
number beyond the range is refused, although the guard compares with this number. -/
theorem limits_of_numbers_ends :
    Param.GivesLimits (.decoded (.num (.float (.ofInt (-2 ^ 63))))) (some (-2 ^ 63)) ∧
      Param.GivesLimits (.decoded (.num (.float Binary64.zero.neg))) (some 0) ∧
      Param.GivesLimits (.decoded (.num (.float (.ofInt (2 ^ 63))))) none ∧
      ∀ skip, Options.skip (.ofList [("skip", .decoded (.num (.ofInt64 3)))]) = .ok skip →
        0 ≤ skip := by
  have hleast : (Number.float (.ofInt (-2 ^ 63))).Denotes (-2 ^ 63) :=
    Number.denotes_float_iff.mpr (by decide +kernel)
  have hzero : (Number.float Binary64.zero.neg).Denotes 0 :=
    Number.denotes_float_iff.mpr (by decide +kernel)
  have hbeyond : (Number.float (.ofInt (2 ^ 63))).Denotes (2 ^ 63) :=
    Number.denotes_float_iff.mpr (by decide +kernel)
  obtain ⟨⟨n, hn, hread⟩, hskip⟩ := limits_of_numbers (.float (.ofInt (-2 ^ 63)))
  obtain ⟨⟨m, hm, hread'⟩, -⟩ := limits_of_numbers (.float Binary64.zero.neg)
  obtain ⟨⟨l, hl, hread''⟩, -⟩ := limits_of_numbers (.float (.ofInt (2 ^ 63)))
  obtain rfl := (hread _).mpr ⟨hleast, by decide, by decide⟩
  obtain rfl := (hread' _).mpr ⟨hzero, by decide, by decide⟩
  have hnone : l = none := by
    rw [Option.eq_none_iff_forall_ne_some]
    intro k hk
    obtain ⟨hdenotes, -, hlt⟩ := (hread'' k).mp hk
    exact absurd hlt (hbeyond.unique hdenotes ▸ by decide)
  exact ⟨hn, hm, hnone ▸ hl, hskip _⟩

/-- An integer string of the signed 64-bit range, of whatever length, is a limit and a skip of its
value, and so is the number that the string decodes to. Beyond the range, it is one of the nearest
end of the range, as long as the integer rounds to a finite number, and refused otherwise. -/
theorem limits_of_integer_strings (l : IntegerLiteral) :
    (Number.isSigned l.value = true →
      Param.GivesLimits (.decoded (.str l.text)) (some l.value) ∧
      ∃ number, Json.decodeText l.text = .ok (.num number) ∧
        Param.GivesLimits (.decoded (.num number)) (some l.value)) ∧
    (Number.isSigned l.value = false →
      Param.GivesLimits (.decoded (.str l.text))
        (if l.magnitude < Binary64.integerBound then some (clampSigned l.value) else none)) := by
  have hstring := Param.givesLimits_signed? (.decoded (.str l.text))
  change Param.GivesLimits _ (Spelled.truncated? l.text) at hstring
  rw [Spelled.truncated?_literal] at hstring
  refine ⟨fun hsigned => ⟨?_, ?_⟩, fun _ => hstring⟩
  · rwa [if_pos (IntegerLiteral.magnitude_lt_of_isSigned hsigned),
      clampSigned_of_isSigned hsigned] at hstring
  · obtain ⟨hlow, hhigh⟩ := l.isSigned_value_iff.mp hsigned
    obtain ⟨number, hdecode, hdenotes⟩ := l.exists_decodeText ⟨hlow, hhigh.trans (by decide)⟩
    have hread := Param.givesLimits_signed? (.decoded (.num number))
    rw [Param.signed?_num hdenotes, if_pos hsigned] at hread
    exact ⟨number, hdecode, hread⟩

/-- The ends of the signed range, and the integer before the least one. -/
theorem limits_of_integer_strings_least :
    let least : IntegerLiteral :=
      ⟨true, "9223372036854775808".toList, by decide, List.all_eq_true.mp (by decide), by decide⟩
    let before : IntegerLiteral :=
      ⟨true, "9223372036854775809".toList, by decide, List.all_eq_true.mp (by decide), by decide⟩
    Number.isSigned least.value = true ∧ Number.isSigned before.value = false ∧
      Param.GivesLimits (.decoded (.str least.text)) (some least.value) ∧
      (∃ number, Json.decodeText least.text = .ok (.num number) ∧
        Param.GivesLimits (.decoded (.num number)) (some least.value)) ∧
      Param.GivesLimits (.decoded (.str before.text)) (some least.value) := by
  intro least before
  have hleast : Number.isSigned least.value = true := by decide +kernel
  have hbefore : Number.isSigned before.value = false := by decide +kernel
  have hread : (if before.magnitude < Binary64.integerBound then some (clampSigned before.value)
      else none) = some least.value := by decide +kernel
  obtain ⟨hstring, hnumber⟩ := (limits_of_integer_strings least).1 hleast
  exact ⟨hleast, hbefore, hstring, hnumber, hread ▸ (limits_of_integer_strings before).2 hbefore⟩

/-- The string of the integer after the greatest one of the signed range is a limit, the greatest
integer of the range, although it is neither the value of the string nor that of the number that the
string decodes to, which is refused. -/
theorem limit_of_string_beyond_range :
    let l : IntegerLiteral :=
      ⟨false, "9223372036854775808".toList, by decide, List.all_eq_true.mp (by decide), by decide⟩
    l.text = "9223372036854775808" ∧ Number.isSigned l.value = false ∧
      Options.limit (.ofList [("limit", .decoded (.str l.text))]) = .ok 9223372036854775807 ∧
      ∃ number, Json.decodeText l.text = .ok (.num number) ∧
        Options.limit (.ofList [("limit", .decoded (.num number))]) =
          .error (.malformed (.value "limit" (.decoded (.num number)))) := by
  intro l
  have htext : l.text = "9223372036854775808" := rfl
  have hsigned : Number.isSigned l.value = false := by decide +kernel
  have hread : Spelled.truncated? l.text = some 9223372036854775807 := by
    rw [Spelled.truncated?_literal]
    decide +kernel
  obtain ⟨number, hdecode, hdenotes⟩ := l.exists_decodeText (by decide +kernel)
  refine ⟨htext, hsigned, ?_, number, hdecode, ?_⟩
  · rw [(Param.givesLimits_signed? (.decoded (.str l.text))).limit _ rfl]
    change (match Spelled.truncated? l.text with | some n => _ | none => _) = _
    rw [hread]
  · rw [(Param.givesLimits_signed? (.decoded (.num number))).limit _ rfl,
      Param.signed?_num hdenotes, if_neg (by rw [hsigned]; decide)]

end DocQuery
