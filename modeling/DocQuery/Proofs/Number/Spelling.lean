import DocQuery.Number.Spelled
import DocQuery.Proofs.Binary64.Shortest

/-!
# How numbers are spelled

The text of a decimal numeral consists of digits, a fraction after a point and a power of ten, of
which at least one of the last two is there. Reading it gives a numeral of the same value, so the
text of a binary64 number determines the number, and it is never the text of an integer.
-/

namespace DocQuery

/-! ### Digits -/

/-- Characters are taken up to the first that does not belong to them. -/
theorem takeWhile_append_of_head? {p : Char → Bool} {chars rest : List Char}
    (hchars : ∀ c ∈ chars, p c = true) (hrest : ∀ c ∈ rest.head?, p c = false) :
    (chars ++ rest).takeWhile p = chars := by
  rw [List.takeWhile_append_of_pos hchars]
  cases rest with
  | nil => rw [List.takeWhile_nil, List.append_nil]
  | cons c rest =>
    rw [List.takeWhile_cons_of_neg (by simp [hrest c rfl]), List.append_nil]

/-- Digits, of which there is at least one, spell a number. -/
theorem Spelled.digits?_eq {chars : List Char} (hne : chars ≠ [])
    (hdigit : ∀ c ∈ chars, c.isDigit = true) :
    digits? chars = some (Nat.ofDigitChars 10 chars 0) := by
  have hcond : (!chars.isEmpty && chars.all Char.isDigit) = true := by
    simpa [hne] using hdigit
  rw [digits?, if_pos hcond, Nat.ofDigitChars_eq_foldl]
  simp only [Nat.mul_comm]

/-- The characters of a number are digits. -/
theorem isDigit_of_mem_toDigits {n : Nat} {c : Char} (h : c ∈ Nat.toDigits 10 n) :
    c.isDigit = true := Nat.isDigit_of_mem_toDigits (by decide) (Nat.le_refl 10) h

/-- The digits of a number spell the number. -/
theorem Spelled.digits?_toDigits (n : Nat) : digits? (Nat.toDigits 10 n) = some n := by
  rw [digits?_eq Nat.toDigits_ne_nil fun c => isDigit_of_mem_toDigits,
    Nat.ofDigitChars_ten_toDigits]

/-- A minus sign and the digits of a number spell its opposite. -/
theorem Spelled.integer?_minus (n : Nat) : integer? ('-' :: Nat.toDigits 10 n) =
    some (-(n : Int)) := by
  simp only [integer?, sign, digits?_toDigits]
  rfl

/-- A plus sign and the digits of a number spell the number. -/
theorem Spelled.integer?_plus (n : Nat) : integer? ('+' :: Nat.toDigits 10 n) = some (n : Int) := by
  simp only [integer?, sign, digits?_toDigits]
  rfl

/-- Digits have no sign. -/
theorem Spelled.sign_toDigits (n : Nat) :
    sign (Nat.toDigits 10 n) = (false, Nat.toDigits 10 n) := by
  obtain ⟨c, rest, h⟩ := List.exists_cons_of_ne_nil (Nat.toDigits_ne_nil (n := n) (b := 10))
  have hdigit : c.isDigit = true := isDigit_of_mem_toDigits (h ▸ List.mem_cons_self)
  rw [h]
  unfold sign
  split
  case h_1 heq => cases heq; cases hdigit
  case h_2 heq => cases heq; cases hdigit
  case h_3 => rfl

/-- The digits of a number spell it as an integer. -/
theorem Spelled.integer?_toDigits (n : Nat) : integer? (Nat.toDigits 10 n) = some (n : Int) := by
  simp only [integer?, sign_toDigits, digits?_toDigits]
  rfl

/-! ### Spellings -/

/-- The parts of a numeral that is no integer: digits before and after the point, and a power of
ten. -/
structure Spelling where
  whole : List Char
  fraction : List Char
  power : Option Int
  whole_ne_nil : whole ≠ []
  isDigit_whole : ∀ c ∈ whole, c.isDigit = true
  isDigit_fraction : ∀ c ∈ fraction, c.isDigit = true
  /-- There is a fraction or a power. -/
  isReal : fraction ≠ [] ∨ power.isSome = true

namespace Spelling

/-- A point and what follows it. -/
def pointed : List Char → List Char
  | [] => []
  | digits => '.' :: digits

/-- The power of ten with its sign. -/
def powered : Option Int → List Char
  | none => []
  | some power => 'e' :: (if power < 0 then '-' else '+') :: Nat.toDigits 10 power.natAbs

/-- The characters of a spelling. -/
def chars (s : Spelling) : List Char := s.whole ++ (pointed s.fraction ++ powered s.power)

/-- The numeral that is spelled. -/
def value (s : Spelling) : Decimal :=
  ⟨Nat.ofDigitChars 10 (s.whole ++ s.fraction) 0, s.power.getD 0 - s.fraction.length⟩

/-- An exponent does not begin with a digit. -/
theorem isDigit_head?_powered (power : Option Int) :
    ∀ c ∈ (powered power).head?, c.isDigit = false := by
  cases power <;> simp [powered]

/-- Reading the power of ten. -/
theorem integer?_powered (power : Int) :
    Spelled.integer? ((if power < 0 then '-' else '+') :: Nat.toDigits 10 power.natAbs) =
      some power := by
  split
  · rw [Spelled.integer?_minus, Int.ofNat_natAbs_of_nonpos (by omega), Int.neg_neg]
  · rw [Spelled.integer?_plus, Int.natAbs_of_nonneg (by omega)]

section Parts

variable {fraction : List Char} {power : Option Int}

/-- What follows the whole part does not begin with a digit. -/
theorem isDigit_head?_pointed :
    ∀ c ∈ (pointed fraction ++ powered power).head?, c.isDigit = false := by
  cases fraction with
  | nil => exact isDigit_head?_powered power
  | cons c rest => simp [pointed]

/-- Only a fraction starts with a point. -/
theorem head?_powered_ne : (powered power).head? ≠ some '.' := by
  cases power <;> simp [powered]

private theorem fraction_of_pointed (hfraction : ∀ c ∈ fraction, c.isDigit = true) :
    (if (pointed fraction ++ powered power).head? = some '.' then
      ((pointed fraction ++ powered power).drop 1).takeWhile Char.isDigit else []) = fraction := by
  cases fraction with
  | nil => exact if_neg head?_powered_ne
  | cons c rest =>
    exact (if_pos rfl).trans (takeWhile_append_of_head? hfraction (isDigit_head?_powered power))

private theorem powered_of_pointed :
    (if (pointed fraction ++ powered power).head? = some '.' then
      (pointed fraction ++ powered power).drop (fraction.length + 1)
      else pointed fraction ++ powered power) = powered power := by
  cases fraction with
  | nil => exact if_neg head?_powered_ne
  | cons c rest => exact (if_pos rfl).trans List.drop_left

end Parts

/-- A spelling reads as the numeral that it spells. -/
theorem decimal?_chars (s : Spelling) : Spelled.decimal? s.chars = some s.value := by
  have hwhole : s.chars.takeWhile Char.isDigit = s.whole :=
    takeWhile_append_of_head? s.isDigit_whole isDigit_head?_pointed
  have hrest : s.chars.drop s.whole.length = pointed s.fraction ++ powered s.power :=
    List.drop_left
  have hdigits : Spelled.digits? (s.whole ++ s.fraction) =
      some (Nat.ofDigitChars 10 (s.whole ++ s.fraction) 0) :=
    Spelled.digits?_eq (by simp [s.whole_ne_nil]) fun c hc =>
      (List.mem_append.mp hc).elim (s.isDigit_whole c) (s.isDigit_fraction c)
  unfold Spelled.decimal?
  dsimp only
  rw [hwhole, hrest, fraction_of_pointed s.isDigit_fraction, powered_of_pointed, hdigits]
  cases hpower : s.power with
  | none => simp only [powered, value, hpower]; rfl
  | some power =>
    simp only [powered, integer?_powered, value, hpower]
    rfl

end Spelling

/-! ### The text of a numeral -/

namespace Decimal

/-- A numeral is spelled by characters that read as a numeral of the same value. -/
def SpelledBy (d : Decimal) (chars : List Char) : Prop :=
  ∃ s : Spelling, chars = s.chars ∧ ∀ negative, s.value.nearest? negative = d.nearest? negative

/-- A numeral is spelled by a spelling with its digits and its exponent. -/
theorem spelledBy_of_value_eq {d : Decimal} {chars : List Char} (s : Spelling)
    (hchars : chars = s.chars)
    (hdigits : Nat.ofDigitChars 10 (s.whole ++ s.fraction) 0 = d.digits)
    (hexponent : s.power.getD 0 - s.fraction.length = d.exponent) : d.SpelledBy chars := by
  refine ⟨s, hchars, fun negative => ?_⟩
  rw [Spelling.value, hdigits, hexponent]

/-- Integers of few digits are written with a fraction of zero. -/
theorem spelledBy_integer (digits zeros : Nat) :
    (⟨digits, zeros⟩ : Decimal).SpelledBy
      (Nat.toDigits 10 digits ++ List.replicate zeros '0' ++ ['.', '0']) := by
  refine ⟨{
    whole := Nat.toDigits 10 digits ++ List.replicate zeros '0'
    fraction := ['0']
    power := none
    whole_ne_nil := by simp [Nat.toDigits_ne_nil]
    isDigit_whole := fun c hc => (List.mem_append.mp hc).elim isDigit_of_mem_toDigits
      fun h => by rw [List.eq_of_mem_replicate h]; rfl
    isDigit_fraction := by simp
    isReal := .inl (List.cons_ne_nil _ _) }, rfl, fun negative => ?_⟩
  have hvalue : Nat.ofDigitChars 10 (Nat.toDigits 10 digits ++ List.replicate zeros '0' ++ ['0'])
      0 = digits * 10 ^ zeros * 10 := by
    rw [Nat.ofDigitChars_append, Nat.ofDigitChars_append, Nat.ofDigitChars_ten_toDigits,
      Nat.ofDigitChars_replicate_zero, Nat.mul_comm (10 ^ zeros), Nat.mul_comm _ 10]
    rfl
  have hshift := nearest?_shift (digits * 10 ^ zeros) 0 negative
  have hquotient : (⟨digits * 10 ^ zeros, 0⟩ : Decimal).quotient =
      (⟨digits, zeros⟩ : Decimal).quotient := by
    rw [quotient_natCast]
    exact (quotient_natCast _ 0).trans (by rw [Nat.pow_zero, Nat.mul_one])
  rw [Spelling.value, hvalue]
  refine hshift.trans ?_
  rw [nearest?, nearest?, hquotient]

/-- The first digits of a numeral and the rest of them, which may be none. -/
def splitSpelling (digits count : Nat) (power : Option Int) (hcount : 0 < count)
    (isReal : (Nat.toDigits 10 digits).drop count ≠ [] ∨ power.isSome = true) : Spelling where
  whole := (Nat.toDigits 10 digits).take count
  fraction := (Nat.toDigits 10 digits).drop count
  power := power
  whole_ne_nil := by simp [List.take_eq_nil_iff, Nat.toDigits_ne_nil, hcount.ne']
  isDigit_whole := fun _ hc => isDigit_of_mem_toDigits (List.mem_of_mem_take hc)
  isDigit_fraction := fun _ hc => isDigit_of_mem_toDigits (List.mem_of_mem_drop hc)
  isReal := isReal

private theorem ofDigitChars_split (digits count : Nat) :
    Nat.ofDigitChars 10 ((Nat.toDigits 10 digits).take count ++ (Nat.toDigits 10 digits).drop count)
      0 = digits := by
  rw [List.take_append_drop, Nat.ofDigitChars_ten_toDigits]

private theorem pointed_of_ne_nil {fraction : List Char} (h : fraction ≠ []) :
    Spelling.pointed fraction = '.' :: fraction := by
  cases fraction with
  | nil => exact absurd rfl h
  | cons c rest => rfl

/-- A numeral can have a point among its digits. -/
theorem spelledBy_split {d : Decimal} {count : Nat} (hcount : 0 < count)
    (hexponent : d.exponent < 0)
    (hlength : d.exponent + (Nat.toDigits 10 d.digits).length = count) :
    d.SpelledBy ((Nat.toDigits 10 d.digits).take count ++
      '.' :: (Nat.toDigits 10 d.digits).drop count) := by
  have hlen : ((Nat.toDigits 10 d.digits).drop count).length =
      (Nat.toDigits 10 d.digits).length - count := List.length_drop
  have hne : (Nat.toDigits 10 d.digits).drop count ≠ [] := by
    rw [← List.length_pos_iff]
    omega
  refine spelledBy_of_value_eq (splitSpelling d.digits count none hcount (.inl hne)) ?_
    (ofDigitChars_split _ _) ?_
  · simp only [Spelling.chars, splitSpelling, Spelling.powered, pointed_of_ne_nil hne,
      List.append_nil]
  · simp only [splitSpelling, Option.getD_none, hlen]
    omega

/-- A numeral can have zeros before its digits. -/
theorem spelledBy_zeros {d : Decimal} {zeros : Nat}
    (hlength : d.exponent + (zeros + (Nat.toDigits 10 d.digits).length : Nat) = 0) :
    d.SpelledBy ('0' :: '.' :: (List.replicate zeros '0' ++ Nat.toDigits 10 d.digits)) := by
  have hne : List.replicate zeros '0' ++ Nat.toDigits 10 d.digits ≠ [] := by
    simp [Nat.toDigits_ne_nil]
  refine spelledBy_of_value_eq {
    whole := ['0']
    fraction := List.replicate zeros '0' ++ Nat.toDigits 10 d.digits
    power := none
    whole_ne_nil := List.cons_ne_nil _ _
    isDigit_whole := by simp
    isDigit_fraction := fun c hc => (List.mem_append.mp hc).elim
      (fun h => by rw [List.eq_of_mem_replicate h]; rfl) isDigit_of_mem_toDigits
    isReal := .inl hne } ?_ ?_ ?_
  · simp only [Spelling.chars, Spelling.powered, pointed_of_ne_nil hne, List.append_nil,
      List.cons_append, List.nil_append]
  · rw [Nat.ofDigitChars_append, Nat.ofDigitChars_append, Nat.ofDigitChars_replicate_zero]
    exact Nat.ofDigitChars_ten_toDigits
  · simp only [Option.getD_none, List.length_append, List.length_replicate]
    omega

/-- A numeral can have a power of ten after its digits. -/
theorem spelledBy_power {d : Decimal} {lead : Int}
    (hlead : d.exponent + (Nat.toDigits 10 d.digits).length - 1 = lead) :
    d.SpelledBy ((if (Nat.toDigits 10 d.digits).length = 1 then Nat.toDigits 10 d.digits
      else (Nat.toDigits 10 d.digits).take 1 ++ '.' :: (Nat.toDigits 10 d.digits).drop 1) ++
      'e' :: (if lead < 0 then '-' else '+') :: Nat.toDigits 10 lead.natAbs) := by
  have hpos : 0 < (Nat.toDigits 10 d.digits).length := Nat.length_toDigits_pos
  have hlen : ((Nat.toDigits 10 d.digits).drop 1).length =
      (Nat.toDigits 10 d.digits).length - 1 := List.length_drop
  have hmantissa : (if (Nat.toDigits 10 d.digits).length = 1 then Nat.toDigits 10 d.digits
      else (Nat.toDigits 10 d.digits).take 1 ++ '.' :: (Nat.toDigits 10 d.digits).drop 1) =
      (Nat.toDigits 10 d.digits).take 1 ++
        Spelling.pointed ((Nat.toDigits 10 d.digits).drop 1) := by
    split
    · next h =>
      rw [List.drop_of_length_le h.le, List.take_of_length_le h.le, Spelling.pointed,
        List.append_nil]
    · next h =>
      rw [pointed_of_ne_nil]
      rw [← List.length_pos_iff]
      omega
  refine spelledBy_of_value_eq (splitSpelling d.digits 1 (some lead) Nat.one_pos (.inr rfl)) ?_
    (ofDigitChars_split _ _) ?_
  · rw [hmantissa, List.append_assoc]
    rfl
  · simp only [splitSpelling, Option.getD_some, hlen]
    omega

/-- The text of a numeral spells it. -/
theorem spelledBy_text (d : Decimal) : d.SpelledBy d.text.toList := by
  have hpos : 0 < (Nat.toDigits 10 d.digits).length := Nat.length_toDigits_pos
  unfold text
  dsimp only
  split
  · split
    · next h =>
      obtain ⟨digits, exponent⟩ := d
      obtain ⟨zeros, rfl⟩ := Int.eq_ofNat_of_zero_le h
      rw [String.toList_ofList]
      exact spelledBy_integer digits zeros
    · split
      · rw [String.toList_ofList]
        exact spelledBy_split (by omega) (by omega) (by omega)
      · rw [String.toList_ofList]
        exact spelledBy_zeros (by omega)
  · rw [String.toList_ofList]
    exact spelledBy_power rfl

end Decimal

/-! ### The text of a number -/

/-- The characters of numbers. -/
def isNumeralChar (c : Char) : Bool := c.isDigit || c ∈ ['-', '+', '.', 'e']

/-- Digits are characters of numerals. -/
theorem isNumeralChar_of_isDigit {c : Char} (h : c.isDigit = true) : isNumeralChar c = true := by
  rw [isNumeralChar, h, Bool.true_or]

namespace Spelling

private theorem isNumeralChar_of_mem_pointed {fraction : List Char}
    (hfraction : ∀ c ∈ fraction, c.isDigit = true) : ∀ c ∈ pointed fraction, isNumeralChar c := by
  cases fraction with
  | nil => exact fun _ h => absurd h List.not_mem_nil
  | cons d rest =>
    exact List.forall_mem_cons.mpr ⟨rfl, fun c hc => isNumeralChar_of_isDigit (hfraction c hc)⟩

private theorem isNumeralChar_of_mem_powered (power : Option Int) :
    ∀ c ∈ powered power, isNumeralChar c := by
  cases power with
  | none => exact fun _ h => absurd h List.not_mem_nil
  | some power =>
    refine List.forall_mem_cons.mpr ⟨rfl, List.forall_mem_cons.mpr ⟨?_, fun c hc =>
      isNumeralChar_of_isDigit (isDigit_of_mem_toDigits hc)⟩⟩
    split <;> rfl

/-- Spellings consist of characters of numerals. -/
theorem isNumeralChar_of_mem (s : Spelling) : ∀ c ∈ s.chars, isNumeralChar c := by
  intro c hc
  rcases List.mem_append.mp hc with h | h
  · exact isNumeralChar_of_isDigit (s.isDigit_whole c h)
  · exact (List.mem_append.mp h).elim (isNumeralChar_of_mem_pointed s.isDigit_fraction c)
      (isNumeralChar_of_mem_powered s.power c)

/-- A spelling begins with a digit. -/
theorem isDigit_head (s : Spelling) : ∃ c rest, s.chars = c :: rest ∧ c.isDigit = true := by
  obtain ⟨c, rest, h⟩ := List.exists_cons_of_ne_nil s.whole_ne_nil
  exact ⟨c, rest ++ (pointed s.fraction ++ powered s.power), by rw [chars, h, List.cons_append],
    s.isDigit_whole c (h ▸ List.mem_cons_self)⟩

/-- A spelling is told from an integer by a point or an exponent. -/
theorem point_or_exponent (s : Spelling) : '.' ∈ s.chars ∨ 'e' ∈ s.chars := by
  unfold chars
  rcases s.isReal with h | h
  · refine .inl (List.mem_append_right _ (List.mem_append_left _ ?_))
    rw [Decimal.pointed_of_ne_nil h]
    exact List.mem_cons_self
  · obtain ⟨power, hpower⟩ := Option.isSome_iff_exists.mp h
    refine .inr (List.mem_append_right _ (List.mem_append_right _ ?_))
    rw [hpower]
    exact List.mem_cons_self

end Spelling

namespace Binary64

/-- The text of a number is a sign and characters that read as the number. -/
theorem exists_spelling (x : Binary64) : ∃ s : Spelling,
    x.text.toList = (if x.negative then ['-'] else []) ++ s.chars ∧
      s.value.nearest? x.negative = some x := by
  obtain ⟨s, hchars, hvalue⟩ := Decimal.spelledBy_text x.shortest
  refine ⟨s, ?_, (hvalue _).trans (nearest?_shortest x)⟩
  rw [text, ← hchars]
  cases x.negative with
  | false => rfl
  | true => exact String.toList_append

/-- Only negative numbers start with a minus. -/
theorem head?_text (x : Binary64) : x.text.toList.head? = some '-' ↔ x.negative = true := by
  obtain ⟨s, hs, -⟩ := exists_spelling x
  obtain ⟨c, rest, hc, hdigit⟩ := s.isDigit_head
  rw [hs, hc]
  cases x.negative with
  | true => simp
  | false =>
    simp only [Bool.false_eq_true, if_false, List.nil_append, List.head?_cons, iff_false]
    rintro ⟨⟩
    cases hdigit

/-- The text of a number determines it. -/
theorem text_injective : Function.Injective text := by
  intro x y h
  have hsign : x.negative = y.negative := by
    rw [Bool.eq_iff_iff, ← head?_text, ← head?_text, h]
  obtain ⟨s, hs, hx⟩ := exists_spelling x
  obtain ⟨t, ht, hy⟩ := exists_spelling y
  have hchars : s.chars = t.chars := by
    rw [h, ht, hsign] at hs
    exact (List.append_cancel_left hs).symm
  have hvalue : s.value = t.value := by
    rw [← Option.some_inj, ← s.decimal?_chars, ← t.decimal?_chars, hchars]
  rw [hvalue, hsign, hy] at hx
  exact (Option.some.inj hx).symm

end Binary64

namespace Number

/-- An integer is written with digits after its sign. -/
theorem isDigit_or_minus_of_mem_toString (n : Int) :
    ∀ c ∈ (toString n).toList, c.isDigit = true ∨ c = '-' := by
  intro c hc
  rw [Int.toString_eq_repr, Int.repr_eq_if] at hc
  split at hc
  · rw [Nat.toList_repr] at hc
    exact .inl (isDigit_of_mem_toDigits hc)
  · rw [String.toList_append, Nat.toList_repr] at hc
    exact (List.mem_append.mp hc).elim (fun h => .inr (List.mem_singleton.mp h))
      fun h => .inl (isDigit_of_mem_toDigits h)

/-- The text of a number consists of characters of numerals. -/
theorem isNumeralChar_of_mem_text (n : Number) : ∀ c ∈ n.text.toList, isNumeralChar c := by
  intro c hc
  cases n with
  | int n bounds =>
    rcases isDigit_or_minus_of_mem_toString n c hc with h | rfl
    · exact isNumeralChar_of_isDigit h
    · rfl
  | float x =>
    obtain ⟨s, hs, -⟩ := x.exists_spelling
    rw [text, hs] at hc
    rcases List.mem_append.mp hc with h | h
    · split at h
      · rw [List.mem_singleton.mp h]
        rfl
      · cases h
    · exact s.isNumeralChar_of_mem c h

/-- The text of a number is not empty. -/
theorem text_ne_nil (n : Number) : n.text.toList ≠ [] := by
  cases n with
  | int n bounds =>
    rw [text, Int.toString_eq_repr, Int.repr_eq_if]
    split
    · rw [Nat.toList_repr]
      exact Nat.toDigits_ne_nil
    · rw [String.toList_append]
      exact List.cons_ne_nil _ _
  | float x =>
    obtain ⟨s, hs, -⟩ := x.exists_spelling
    obtain ⟨c, rest, hc, -⟩ := s.isDigit_head
    rw [text, hs, hc]
    simp

/-- The text of an integer reads as the integer. -/
theorem integer?_toString (n : Int) : Spelled.integer? (toString n).toList = some n := by
  rw [Int.toString_eq_repr, Int.repr_eq_if]
  split
  · rw [Nat.toList_repr, Spelled.integer?_toDigits, Int.toNat_of_nonneg ‹_›]
  · rw [String.toList_append, Nat.toList_repr]
    refine (Spelled.integer?_minus _).trans ?_
    rw [Int.toNat_of_nonneg (by omega), Int.neg_neg]

/-- An integer and a binary64 number have different texts. -/
theorem toString_ne_text (n : Int) (x : Binary64) : toString n ≠ x.text := by
  intro h
  obtain ⟨s, hs, -⟩ := x.exists_spelling
  have hmem : ∀ c ∈ s.chars, c.isDigit = true ∨ c = '-' := fun c hc =>
    isDigit_or_minus_of_mem_toString n c (h ▸ hs ▸ List.mem_append_right _ hc)
  rcases s.point_or_exponent with hc | hc
  · exact absurd (hmem _ hc) (by decide)
  · exact absurd (hmem _ hc) (by decide)

/-- The text of a number determines it. -/
theorem text_injective : Function.Injective text := by
  intro m n h
  cases m with
  | int m hm =>
    cases n with
    | int n hn =>
      have hmn : some m = some n := by
        rw [← integer?_toString m, ← integer?_toString n]
        exact congrArg (fun s : String => Spelled.integer? s.toList) h
      cases hmn
      rfl
    | float y => exact absurd h (toString_ne_text m y)
  | float x =>
    cases n with
    | int n hn => exact absurd h.symm (toString_ne_text n x)
    | float y => rw [Binary64.text_injective h]

end Number

end DocQuery
