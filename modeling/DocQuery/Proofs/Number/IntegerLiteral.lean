import DocQuery.Proofs.Json.ReadBack
import DocQuery.Proofs.Number.Exact
import DocQuery.Proofs.Number.LargeInteger
import DocQuery.Proofs.Number.Spelling

/-!
# Integer literals

An integer literal of JSON is an optional minus and digits without leading zeros, of any length. As
a string, it is read exactly in the signed 64-bit range; beyond it, the string is read as a decimal
number, so the end of the range takes the place of the integer, as long as it rounds to a finite
number.
-/

namespace DocQuery

/-- An integer literal of JSON. -/
structure IntegerLiteral where
  negative : Bool
  digits : List Char
  digits_ne_nil : digits ≠ []
  isDigit_digits : ∀ c ∈ digits, c.isDigit = true
  /-- A zero stands alone. -/
  noLeadingZero : digits.head? = some '0' → digits = ['0']

namespace IntegerLiteral

/-- The characters of a literal. -/
def chars (l : IntegerLiteral) : List Char := (if l.negative then ['-'] else []) ++ l.digits

/-- The text of a literal. -/
def text (l : IntegerLiteral) : String := String.ofList l.chars

/-- The number that the digits write. -/
def magnitude (l : IntegerLiteral) : Nat := Nat.ofDigitChars 10 l.digits 0

/-- The integer that a literal writes. -/
def value (l : IntegerLiteral) : Int := if l.negative then -(l.magnitude : Int) else l.magnitude

/-- The value of a literal is its magnitude up to the sign. -/
theorem natAbs_value (l : IntegerLiteral) : l.value.natAbs = l.magnitude := by
  unfold value
  split <;> simp

/-- The value of a literal is signed exactly if it is in the range of 64 bits. -/
theorem isSigned_value_iff (l : IntegerLiteral) :
    Number.isSigned l.value = true ↔ -2 ^ 63 ≤ l.value ∧ l.value < 2 ^ 63 := by
  rw [Number.isSigned_iff]
  rfl

/-- Every literal of the signed range rounds to a finite number. -/
theorem magnitude_lt_of_isSigned {l : IntegerLiteral} (h : Number.isSigned l.value = true) :
    l.magnitude < Binary64.integerBound := by
  have hrange : 2 ^ 63 < Binary64.integerBound := by decide +kernel
  have habs := l.natAbs_value
  have hbounds := l.isSigned_value_iff.mp h
  omega

/-- A literal beyond the signed range has more than 63 bits, or 64 of them. -/
theorem le_magnitude_of_not_isSigned {l : IntegerLiteral} (h : ¬Number.isSigned l.value = true) :
    2 ^ 63 ≤ l.magnitude := by
  have habs := l.natAbs_value
  rw [isSigned_value_iff] at h
  omega

end IntegerLiteral

/-- A digit is the character of its value. -/
theorem exists_digitChar {c : Char} (h : c.isDigit = true) : ∃ d < 10, c = Nat.digitChar d := by
  obtain ⟨hlow, hhigh⟩ := Char.isDigit_iff_toNat.mp h
  change 48 ≤ c.toNat at hlow
  change c.toNat ≤ 57 at hhigh
  have hdigits : ∀ d < 10, Char.ofNat (48 + d) = Nat.digitChar d := by decide
  refine ⟨c.toNat - 48, by omega, ?_⟩
  rw [← hdigits _ (by omega), Nat.add_sub_of_le hlow, Char.ofNat_toNat]

/-- Digits that continue a positive number stand behind the digits of the number. -/
theorem toDigits_ofDigitChars_of_pos {n : Nat} (hn : 0 < n) {digits : List Char}
    (hdigit : ∀ c ∈ digits, c.isDigit = true) :
    Nat.toDigits 10 (Nat.ofDigitChars 10 digits n) = Nat.toDigits 10 n ++ digits := by
  induction digits generalizing n with
  | nil => rw [Nat.ofDigitChars_nil, List.append_nil]
  | cons c rest ih =>
    rw [List.forall_mem_cons] at hdigit
    obtain ⟨d, hd, rfl⟩ := exists_digitChar hdigit.1
    rw [Nat.ofDigitChars_cons_digitChar_of_lt_ten hd, ih (by omega) hdigit.2,
      ← Nat.toDigits_append_toDigits (by decide) hn hd, Nat.toDigits_of_lt_base hd,
      List.append_assoc, List.singleton_append]

namespace IntegerLiteral

/-- The digits of a literal are those of its magnitude. -/
theorem digits_eq (l : IntegerLiteral) : l.digits = Nat.toDigits 10 l.magnitude := by
  obtain ⟨negative, digits, hne, hdigit, hzero⟩ := l
  obtain ⟨c, rest, rfl⟩ := List.exists_cons_of_ne_nil hne
  rw [List.forall_mem_cons] at hdigit
  obtain ⟨d, hd, rfl⟩ := exists_digitChar hdigit.1
  change _ = Nat.toDigits 10 (Nat.ofDigitChars 10 (Nat.digitChar d :: rest) 0)
  rw [Nat.ofDigitChars_cons_digitChar_of_lt_ten hd, Nat.mul_zero, Nat.zero_add]
  rcases Nat.eq_zero_or_pos d with rfl | hpos
  · cases hzero rfl
    rfl
  · rw [toDigits_ofDigitChars_of_pos hpos hdigit.2, Nat.toDigits_of_lt_base hd,
      List.singleton_append]

/-- The text of a literal is a minus sign, if it is negative, and the digits of its magnitude. -/
theorem toList_text (l : IntegerLiteral) :
    l.text.toList = (if l.negative then ['-'] else []) ++ Nat.toDigits 10 l.magnitude := by
  rw [text, String.toList_ofList, chars, digits_eq]

end IntegerLiteral

namespace Spelled

/-- The sign of a literal is taken off its digits. -/
theorem sign_literal (l : IntegerLiteral) :
    sign l.text.toList = (l.negative, Nat.toDigits 10 l.magnitude) := by
  rw [l.toList_text]
  cases l.negative with
  | true => rfl
  | false => exact sign_toDigits l.magnitude

/-- The text of a literal spells its value. -/
theorem integer?_literal (l : IntegerLiteral) : integer? l.text.toList = some l.value := by
  rw [l.toList_text, IntegerLiteral.value]
  cases l.negative with
  | true => exact integer?_minus l.magnitude
  | false => exact integer?_toDigits l.magnitude

/-- Digits alone are the numeral without a fraction and an exponent. -/
theorem decimal?_toDigits (n : Nat) : decimal? (Nat.toDigits 10 n) = some ⟨n, 0⟩ := by
  have hwhole : (Nat.toDigits 10 n ++ []).takeWhile Char.isDigit = Nat.toDigits 10 n :=
    takeWhile_append_of_head? (fun _ => isDigit_of_mem_toDigits) nofun
  rw [List.append_nil] at hwhole
  unfold decimal?
  dsimp only
  rw [hwhole, List.drop_length]
  simp only [List.head?_nil, reduceCtorEq, if_false, List.append_nil, digits?_toDigits]
  rfl

/-- An integer of more than 52 bits is rounded as a quotient; if it has too many digits for that, it
is too large to be finite. -/
theorem round?_natCast {n : Nat} (h : Binary64.hidden ≤ n) (negative : Bool) :
    round? negative ⟨n, 0⟩ = Binary64.ofQuotient? negative n 1 := by
  have hpos : 0 < n := Nat.lt_of_lt_of_le Binary64.hidden_pos h
  unfold round?
  dsimp only
  rw [if_neg (by simp; omega)]
  split
  · next hlead =>
    have hlength : 400 ≤ (Nat.toDigits 10 n).length - 1 := by omega
    have hlarge : Binary64.integerBound ≤ n :=
      calc Binary64.integerBound ≤ 10 ^ 400 := by decide +kernel
        _ ≤ 10 ^ ((Nat.toDigits 10 n).length - 1) := Nat.pow_le_pow_right (by decide) hlength
        _ ≤ n := Binary64.pow_le_of_length_toDigits hpos
    exact (Binary64.ofQuotient?_of_integerBound_le hlarge negative).symm
  · have hquotient : (⟨n, 0⟩ : Decimal).quotient = (n * 10 ^ 0, 1) := Decimal.quotient_natCast n 0
    rw [Decimal.nearest?, hquotient, Nat.pow_zero, Nat.mul_one]

/-- As a real number, a large literal is its magnitude rounded. -/
theorem real?_literal (l : IntegerLiteral) (h : Binary64.hidden ≤ l.magnitude) :
    real? l.text = Binary64.ofQuotient? l.negative l.magnitude 1 := by
  unfold real?
  rw [sign_literal]
  dsimp only
  rw [decimal?_toDigits]
  exact round?_natCast h l.negative

/-- The integer part of a rounded literal lies beyond the signed range on the side where the literal
does. -/
theorem clampSigned_trunc {l : IntegerLiteral} {x : Binary64} (hsign : x.negative = l.negative)
    (hl : 2 ^ 63 ≤ l.magnitude) (hx : 2 ^ 63 * Binary64.one ≤ x.magnitude) :
    clampSigned x.trunc = clampSigned l.value := by
  have hquotient : 2 ^ 63 ≤ x.magnitude / Binary64.one :=
    (Nat.le_div_iff_mul_le Binary64.one_pos).mpr hx
  rw [Binary64.trunc, IntegerLiteral.value, hsign]
  generalize x.magnitude / Binary64.one = quotient at hquotient
  cases l.negative with
  | true =>
    rw [if_pos rfl, if_pos rfl,
      clampSigned_of_le_neg_signedBound (by rw [Number.signedBound]; omega),
      clampSigned_of_le_neg_signedBound (by rw [Number.signedBound]; omega)]
  | false =>
    simp only [Bool.false_eq_true, if_false]
    rw [clampSigned_of_signedBound_le (by rw [Number.signedBound]; omega),
      clampSigned_of_signedBound_le (by rw [Number.signedBound]; omega)]

/-- A literal is read as its value in the signed range, and as the nearest end of the range beyond
it, as long as it rounds to a finite number. -/
theorem truncated?_literal (l : IntegerLiteral) :
    truncated? l.text =
      if l.magnitude < Binary64.integerBound then some (clampSigned l.value) else none := by
  have hsigned : signed? l.text = (some l.value).filter Number.isSigned := by
    rw [signed?, integer?_literal]
  rw [truncated?, hsigned, Option.filter_some]
  by_cases h : Number.isSigned l.value = true
  · rw [if_pos h, clampSigned_of_isSigned h, Option.some_or,
      if_pos (IntegerLiteral.magnitude_lt_of_isSigned h)]
  · have hlarge := IntegerLiteral.le_magnitude_of_not_isSigned h
    rw [if_neg h, Option.none_or, real?_literal l (Nat.le_trans (by decide) hlarge)]
    split
    · next hfinite =>
      obtain ⟨x, hx, hsign, hmagnitude⟩ :=
        Binary64.exists_ofQuotient? (t := 11) hlarge hfinite l.negative
      rw [hx, Option.map_some, clampSigned_trunc hsign hlarge hmagnitude]
    · next hinfinite =>
      rw [Binary64.ofQuotient?_of_integerBound_le (Nat.le_of_not_lt hinfinite), Option.map_none]

end Spelled

namespace IntegerLiteral

/-- Minus zero aside, the sign of a literal is that of its value. -/
theorem decide_value_neg (l : IntegerLiteral) (h : l.negative = true → l.magnitude ≠ 0) :
    decide (l.value < 0) = l.negative := by
  rw [value]
  cases hnegative : l.negative with
  | true =>
    have hne := h hnegative
    exact decide_eq_true (by simp only [if_true]; omega)
  | false => exact decide_eq_false (by simp)

/-- The only literal of a negative zero is `-0`. -/
theorem text_eq_minusZero (l : IntegerLiteral) (h : l.negative = true ∧ l.magnitude = 0) :
    l.text = "-0" := by
  refine String.toList_injective ?_
  rw [l.toList_text, h.1, h.2]
  rfl

/-- Minus zero is decoded to a number of the value zero that is no integer. -/
theorem exists_decodeText_minusZero :
    ∃ n : Number, Json.decodeText "-0" = .ok (.num n) ∧ n.Denotes 0 :=
  ⟨.float Binary64.zero.neg, Json.decodeText_eq_ok_of_text (by decide +kernel),
    Number.denotes_float_iff.mpr (by decide +kernel)⟩

/-- A literal is decoded to the number that its digits form with its sign. -/
theorem decodeText_eq_ok_iff {l : IntegerLiteral} {x : Number} :
    Json.decodeText l.text = .ok (.num x) ↔
      Numeral.number? ⟨l.negative, Numeral.digitsOf l.magnitude, [], false⟩ 0 = some x := by
  have hend : Json.Stops [] := nofun
  obtain ⟨p, hread⟩ := Json.readValue_literal Json.maxDepth l.negative l.magnitude hend ⟨1, 0⟩
  rw [List.append_nil, ← l.toList_text] at hread
  rw [Json.decodeText, Json.decode, Json.decodeFirst, Json.Cursor.start, Utf8.toList_toUTF8, hread]
  cases Numeral.number? ⟨l.negative, Numeral.digitsOf l.magnitude, [], false⟩ 0 with
  | some y =>
    change Except.ok (Json.num y) = Except.ok (Json.num x) ↔ some y = some x
    rw [Except.ok.injEq, Json.num.injEq, Option.some_inj]
  | none =>
    change Except.error _ = Except.ok (Json.num x) ↔ none = some x
    simp only [reduceCtorEq]

/-- Minus zero aside, a literal of 64 bits is decoded to the integer of its value. -/
theorem decodeText_of_bounds {l : IntegerLiteral} (h : l.negative = true → l.magnitude ≠ 0)
    (bounds : -Number.signedBound ≤ l.value ∧ l.value < UInt64.size) :
    Json.decodeText l.text = .ok (.num (.int l.value bounds)) := by
  have hdigits := Numeral.number?_digitsOf l.value bounds
  rwa [l.natAbs_value, l.decide_value_neg h, ← decodeText_eq_ok_iff] at hdigits

/-- A literal that is not one of 64 bits is decoded to a binary64 number beyond the signed range, if
it is decoded. -/
theorem exists_float_of_large {l : IntegerLiteral} {x : Number}
    (hlarge : ¬(-Number.signedBound ≤ l.value ∧ l.value < UInt64.size))
    (h : Json.decodeText l.text = .ok (.num x)) :
    ∃ y, x = .float y ∧ y.negative = l.negative ∧ 2 ^ 63 * Binary64.one ≤ y.magnitude :=
  Numeral.number?_digitsOf_of_large hlarge (decodeText_eq_ok_iff.mp h)

/-- A literal of 64 bits is decoded to a number of its value. -/
theorem exists_decodeText (l : IntegerLiteral)
    (bounds : -Number.signedBound ≤ l.value ∧ l.value < UInt64.size) :
    ∃ n, Json.decodeText l.text = .ok (.num n) ∧ n.Denotes l.value := by
  by_cases h : l.negative = true → l.magnitude ≠ 0
  · exact ⟨_, decodeText_of_bounds h bounds, Number.denotes_int_iff.mpr rfl⟩
  · have hzero : l.negative = true ∧ l.magnitude = 0 := by simpa using h
    have hvalue : l.value = 0 := by
      rw [value, hzero.2]
      simp
    rw [l.text_eq_minusZero hzero, hvalue]
    exact exists_decodeText_minusZero

end IntegerLiteral

end DocQuery
