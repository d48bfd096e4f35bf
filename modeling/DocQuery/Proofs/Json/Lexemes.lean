import DocQuery.Json.Decode
import DocQuery.Json.Text
import DocQuery.Proofs.Number.Numeral
import DocQuery.Proofs.Text.Utf8

/-!
# Reading words, strings and integers

What is written for a word, a string or an integer is read back, whatever it stands between. Only
integers need to end somewhere: nothing that continues a number may follow.
-/

namespace DocQuery.Json

open Cursor Utf8

/-- What may follow a number: nothing, or a byte that does not continue it. -/
def Stops (rest : List UInt8) : Prop :=
  ∀ byte ∈ rest.head?, isDigit byte = false ∧ byte ≠ 46 ∧ byte ≠ 101 ∧ byte ≠ 69

/-- A reader takes bytes for a value wherever they stand, up to what may follow a number. -/
def Takes {α : Type} (read : Cursor → Decoding (α × Cursor)) (bytes : List UInt8) (a : α) : Prop :=
  ∀ rest p, Stops rest → ∃ p', read ⟨bytes ++ rest, p⟩ = .ok (a, ⟨rest, p'⟩)

/-- No blank is skipped before another byte. -/
theorem skipBlanks_of_not_isBlank {byte : UInt8} (h : isBlank byte = false) (rest : List UInt8)
    (p : Position) : skipBlanks ⟨byte :: rest, p⟩ = ⟨byte :: rest, p⟩ := by
  rw [skipBlanks, skipBlanksFrom, h]
  rfl

/-- A word is read to its end. -/
theorem readWord_self (word rest : List UInt8) (p : Position) :
    ∃ p', readWord ⟨word ++ rest, p⟩ word = .ok ⟨rest, p'⟩ := by
  induction word generalizing p with
  | nil => exact ⟨p, rfl⟩
  | cons byte word ih =>
    obtain ⟨p', h⟩ := ih (stepOver p byte)
    refine ⟨p', Eq.trans ?_ h⟩
    rw [readWord]
    exact if_pos rfl

/-- Bytes that need no escape stand for themselves. -/
theorem readStringBytes_plain {bytes : List UInt8}
    (h : ∀ byte ∈ bytes, 32 ≤ byte ∧ byte ≠ 34 ∧ byte ≠ 92) (fuel : Nat) (read rest : List UInt8)
    (p : Position) : ∃ p', readStringBytes (fuel + bytes.length) read ⟨bytes ++ rest, p⟩ =
      readStringBytes fuel (bytes.reverse ++ read) ⟨rest, p'⟩ := by
  induction bytes generalizing read p with
  | nil => exact ⟨p, rfl⟩
  | cons byte bytes ih =>
    obtain ⟨hspace, hquote, hbackslash⟩ := h byte List.mem_cons_self
    obtain ⟨p', hrest⟩ := ih (fun b hb => h b (List.mem_cons_of_mem byte hb)) (byte :: read)
      (stepOver p byte)
    have hcontrol : ¬byte < 32 := UInt8.not_lt.mpr hspace
    refine ⟨p', Eq.trans ?_ (hrest.trans ?_)⟩
    · rw [List.length_cons, ← Nat.add_assoc, readStringBytes]
      simp only [peek, List.cons_append, List.head?_cons, hquote, hbackslash, hcontrol, if_false]
      rfl
    · rw [List.reverse_cons, List.append_assoc, List.singleton_append]

/-- The byte of a hexadecimal digit. -/
def hexByte (n : Nat) : UInt8 := UInt8.ofNat (hexDigit n).toNat

private theorem hexValue?_hexByte : ∀ n < 16, hexValue? (hexByte n) = some n := by decide

private theorem utf8EncodeChar_hexDigit :
    ∀ n < 16, String.utf8EncodeChar (hexDigit n) = [hexByte n] := by
  decide

/-- A control character is read from its code in hexadecimal digits. -/
theorem readCodePoint_control {n : Nat} (hn : n < 32) (rest : List UInt8) (p : Position) :
    ∃ p', readCodePoint ⟨48 :: 48 :: hexByte (n / 16) :: hexByte (n % 16) :: rest, p⟩ =
      .ok (Char.ofNat n, ⟨rest, p'⟩) := by
  have hzero : hexValue? 48 = some 0 := rfl
  have hhigh := hexValue?_hexByte (n / 16) (by omega)
  have hlow := hexValue?_hexByte (n % 16) (by omega)
  have hcode : ((0 * 16 + 0) * 16 + n / 16) * 16 + n % 16 = n := by omega
  have hread : ∃ p', readHex ⟨48 :: 48 :: hexByte (n / 16) :: hexByte (n % 16) :: rest, p⟩ =
      .ok (n, ⟨rest, p'⟩) := by
    rw [readHex]
    simp only [hzero, hhigh, hlow, hcode]
    exact ⟨_, rfl⟩
  obtain ⟨p', hread⟩ := hread
  refine ⟨p', ?_⟩
  rw [readCodePoint, hread]
  exact (if_neg (by omega)).trans (if_pos (.inl (by omega)))

/-- The escape of a control character is read as the character. -/
theorem readEscape_control {c : Char} (h : c.toNat < 32) (rest : List UInt8) (p : Position) :
    ∃ p', readEscape
      ⟨117 :: 48 :: 48 :: hexByte (c.toNat / 16) :: hexByte (c.toNat % 16) :: rest, p⟩ =
        .ok (String.utf8EncodeChar c, ⟨rest, p'⟩) := by
  obtain ⟨p', hread⟩ := readCodePoint_control h rest (stepOver p 117)
  have hchar : (String.singleton c).toUTF8.toList = String.utf8EncodeChar c := by
    rw [toList_toUTF8, String.toList_singleton, encode_cons, encode_nil, List.append_nil]
  have hescape : readEscape
      ⟨117 :: 48 :: 48 :: hexByte (c.toNat / 16) :: hexByte (c.toNat % 16) :: rest, p⟩ =
        (readCodePoint ⟨48 :: 48 :: hexByte (c.toNat / 16) :: hexByte (c.toNat % 16) :: rest,
          stepOver p 117⟩ >>= fun r => .ok ((String.singleton r.1).toUTF8.toList, r.2)) := rfl
  refine ⟨p', ?_⟩
  rw [hescape, hread, Char.ofNat_toNat]
  exact congrArg (fun bytes => Except.ok (bytes, (⟨rest, p'⟩ : Cursor))) hchar

/-- The bytes of a character that needs no escape need none. -/
theorem plain_of_mem_utf8EncodeChar {c : Char} (hquote : c ≠ '"') (hbackslash : c ≠ '\\')
    (hplain : ' ' ≤ c) : ∀ byte ∈ String.utf8EncodeChar c, 32 ≤ byte ∧ byte ≠ 34 ∧ byte ≠ 92 := by
  intro byte hbyte
  by_cases hsmall : c.toNat < 128
  · rw [utf8EncodeChar_of_lt hsmall, List.mem_singleton] at hbyte
    subst hbyte
    refine ⟨?_, ofNat_toNat_ne hsmall (by decide) hquote,
      ofNat_toNat_ne hsmall (by decide) hbackslash⟩
    rw [UInt8.le_iff_toNat_le, UInt8.toNat_ofNat', Nat.mod_eq_of_lt (by omega)]
    exact hplain
  · have hlarge := le_of_mem_utf8EncodeChar (Nat.le_of_not_lt hsmall) byte hbyte
    refine ⟨UInt8.le_trans (by decide) hlarge, ?_, ?_⟩
    · rintro rfl
      exact absurd hlarge (by decide)
    · rintro rfl
      exact absurd hlarge (by decide)

/-- What is written for a character inside a string is read as the bytes of the character. -/
theorem readStringBytes_escape (c : Char) (fuel : Nat) (read rest : List UInt8) (p : Position) :
    ∃ p', ∃ fuel' ≥ fuel,
      readStringBytes (fuel + (encode (escape c)).length) read ⟨encode (escape c) ++ rest, p⟩ =
        readStringBytes fuel' ((String.utf8EncodeChar c).reverse ++ read) ⟨rest, p'⟩ := by
  -- An escape is several bytes but one round of the reader: fuel for all its bytes leaves some.
  unfold escape
  split_ifs with hquote hbackslash hplain hn hr ht hb hf
  case pos => subst hquote; exact ⟨_, fuel + 1, by omega, rfl⟩
  case pos => subst hbackslash; exact ⟨_, fuel + 1, by omega, rfl⟩
  case pos =>
    obtain ⟨p', h⟩ := readStringBytes_plain
      (plain_of_mem_utf8EncodeChar hquote hbackslash hplain) fuel read rest p
    rw [encode_cons, encode_nil, List.append_nil]
    exact ⟨p', fuel, Nat.le_refl fuel, h⟩
  case pos => subst hn; exact ⟨_, fuel + 1, by omega, rfl⟩
  case pos => subst hr; exact ⟨_, fuel + 1, by omega, rfl⟩
  case pos => subst ht; exact ⟨_, fuel + 1, by omega, rfl⟩
  case pos => subst hb; exact ⟨_, fuel + 1, by omega, rfl⟩
  case pos => subst hf; exact ⟨_, fuel + 1, by omega, rfl⟩
  case neg =>
    have hcontrol : c.toNat < 32 := Nat.lt_of_not_le hplain
    obtain ⟨p', hread⟩ := readEscape_control hcontrol rest (stepOver p 92)
    have hbytes : encode ['\\', 'u', '0', '0', hexDigit (c.toNat / 16), hexDigit (c.toNat % 16)] =
        [92, 117, 48, 48, hexByte (c.toNat / 16), hexByte (c.toNat % 16)] := by
      have hhigh := utf8EncodeChar_hexDigit (c.toNat / 16) (by omega)
      have hlow := utf8EncodeChar_hexDigit (c.toNat % 16) (by omega)
      simp only [encode_cons, encode_nil, hhigh, hlow]
      rfl
    refine ⟨p', fuel + 5, by omega, ?_⟩
    rw [hbytes]
    exact congrArg (· >>= fun r => readStringBytes (fuel + 5) (r.1.reverse ++ read) r.2) hread

/-- The inside of a string is read up to its closing quote. -/
theorem readStringBytes_inside (chars : List Char) (fuel : Nat) (read rest : List UInt8)
    (p : Position) (h : (encode (chars.flatMap escape)).length < fuel) :
    ∃ p', readStringBytes fuel read ⟨encode (chars.flatMap escape) ++ 34 :: rest, p⟩ =
      .ok (read.reverse ++ encode chars, ⟨rest, p'⟩) := by
  induction chars generalizing fuel read p with
  | nil =>
    obtain ⟨fuel, rfl⟩ := Nat.exists_eq_succ_of_ne_zero (Nat.ne_of_gt h)
    refine ⟨stepOver p 34, ?_⟩
    rw [encode_nil, List.append_nil]
    rfl
  | cons c chars ih =>
    rw [List.flatMap_cons, encode_append, List.length_append] at h
    rw [List.flatMap_cons, encode_append, List.append_assoc]
    obtain ⟨p₁, fuel₁, hle, hchar⟩ := readStringBytes_escape c
      (fuel - (encode (escape c)).length) read (encode (chars.flatMap escape) ++ 34 :: rest) p
    rw [Nat.sub_add_cancel (by omega)] at hchar
    obtain ⟨p₂, hrest⟩ := ih fuel₁ ((String.utf8EncodeChar c).reverse ++ read) p₁ (by omega)
    refine ⟨p₂, hchar.trans (hrest.trans ?_)⟩
    rw [List.reverse_append, List.reverse_reverse, List.append_assoc, encode_cons]

/-- A string is read back from what is written after its opening quote. -/
theorem readString_quoted (s : String) (rest : List UInt8) (p : Position) :
    ∃ p', readString ⟨encode (s.toList.flatMap escape) ++ 34 :: rest, p⟩ = .ok (s, ⟨rest, p'⟩) := by
  obtain ⟨p', hbytes⟩ := readStringBytes_inside s.toList
    ((encode (s.toList.flatMap escape) ++ 34 :: rest).length + 1) [] rest p
    (by rw [List.length_append]; omega)
  refine ⟨p', ?_⟩
  rw [readString, hbytes]
  simp only [bind, Except.bind, List.reverse_nil, List.nil_append, decode?_encode,
    String.ofList_toList]

/-- Digits are taken up to the first byte that is none. -/
theorem takeDigitsFrom_append {bytes rest : List UInt8} (h : ∀ byte ∈ bytes, isDigit byte = true)
    (hrest : Stops rest) (p : Position) :
    ∃ p', takeDigitsFrom (bytes ++ rest) p = (bytes.map digitValue, ⟨rest, p'⟩) := by
  induction bytes generalizing p with
  | nil =>
    cases rest with
    | nil => exact ⟨p, rfl⟩
    | cons byte rest =>
      obtain ⟨hdigit, -⟩ := hrest byte rfl
      refine ⟨p, ?_⟩
      rw [List.nil_append, takeDigitsFrom, if_neg (by simp [hdigit])]
      rfl
  | cons byte bytes ih =>
    obtain ⟨p', htake⟩ := ih (fun b hb => h b (List.mem_cons_of_mem byte hb)) (stepOver p byte)
    refine ⟨p', ?_⟩
    rw [List.cons_append, takeDigitsFrom, if_pos (h byte List.mem_cons_self), htake]
    rfl

/-- A digit is none of the bytes that are not digits. -/
theorem ne_of_isDigit {byte other : UInt8} (h : isDigit byte = true)
    (hother : isDigit other = false) : byte ≠ other := by
  rintro rfl
  rw [h] at hother
  cases hother

/-- A digit is not blank. -/
theorem isBlank_of_isDigit {byte : UInt8} (h : isDigit byte = true) : isBlank byte = false := by
  have hspace : byte ≠ 32 := ne_of_isDigit h (by decide)
  have hline : byte ≠ 10 := ne_of_isDigit h (by decide)
  have htab : byte ≠ 9 := ne_of_isDigit h (by decide)
  have hreturn : byte ≠ 13 := ne_of_isDigit h (by decide)
  simp [isBlank, hspace, hline, htab, hreturn]

/-- The byte of a decimal digit has the value of the digit. -/
theorem utf8EncodeChar_digit {c : Char} (h : c.isDigit = true) :
    ∃ byte, String.utf8EncodeChar c = [byte] ∧ isDigit byte = true ∧
      digitValue byte = c.toNat - 48 ∧ (c ≠ '0' → byte ≠ 48) := by
  rw [Char.isDigit, Bool.and_eq_true, decide_eq_true_iff, decide_eq_true_iff] at h
  have hlow : 48 ≤ c.toNat := h.1
  have hhigh : c.toNat ≤ 57 := h.2
  have hvalue : (UInt8.ofNat c.toNat).toNat = c.toNat := by
    rw [UInt8.toNat_ofNat', Nat.mod_eq_of_lt (by omega)]
  refine ⟨UInt8.ofNat c.toNat, utf8EncodeChar_of_lt (by omega), ?_, ?_, ?_⟩
  · rw [isDigit, Bool.and_eq_true, decide_eq_true_iff, decide_eq_true_iff, UInt8.le_iff_toNat_le,
      UInt8.le_iff_toNat_le, hvalue]
    exact ⟨hlow, hhigh⟩
  · rw [digitValue, hvalue]
  · exact ofNat_toNat_ne (by omega) (by decide)

/-- The digits of a number are bytes of digits with the values of the digits. -/
theorem encode_toDigits (n : Nat) :
    (∀ byte ∈ encode (Nat.toDigits 10 n), isDigit byte = true) ∧
      (encode (Nat.toDigits 10 n)).map digitValue = Numeral.digitsOf n := by
  have hdigits : ∀ c ∈ Nat.toDigits 10 n, c.isDigit = true := fun c => isDigit_of_mem_toDigits
  rw [Numeral.digitsOf]
  generalize Nat.toDigits 10 n = digits at hdigits
  induction digits with
  | nil => exact ⟨fun _ hmem => absurd hmem List.not_mem_nil, rfl⟩
  | cons c rest ih =>
    obtain ⟨byte, hbyte, hdigit, hvalue, -⟩ := utf8EncodeChar_digit (hdigits c List.mem_cons_self)
    obtain ⟨ihdigit, ihvalue⟩ := ih fun d hd => hdigits d (List.mem_cons_of_mem c hd)
    rw [encode_cons, hbyte, List.singleton_append, List.map_cons, List.map_cons, hvalue, ihvalue]
    exact ⟨List.forall_mem_cons.mpr ⟨hdigit, ihdigit⟩, rfl⟩

/-- The digits of a number start with a digit, which is a zero for zero only. -/
theorem encode_toDigits_eq_cons (n : Nat) : ∃ byte tail,
    encode (Nat.toDigits 10 n) = byte :: tail ∧ isDigit byte = true ∧ (n ≠ 0 → byte ≠ 48) := by
  obtain ⟨c, digits, hc⟩ := List.exists_cons_of_ne_nil (Nat.toDigits_ne_nil (n := n) (b := 10))
  obtain ⟨byte, hbyte, hdigit, -, hne⟩ :=
    utf8EncodeChar_digit (isDigit_of_mem_toDigits (hc ▸ List.mem_cons_self))
  refine ⟨byte, encode digits, ?_, hdigit, fun hn => hne ?_⟩
  · rw [hc, encode_cons, hbyte]
    rfl
  · rintro rfl
    exact head?_toDigits_ne_zero hn (hc ▸ rfl)

/-- The digits of a number are read as the digits before a point. -/
theorem readWhole_toDigits (n : Nat) {rest : List UInt8} (hrest : Stops rest) (p : Position) :
    ∃ p', readWhole ⟨encode (Nat.toDigits 10 n) ++ rest, p⟩ =
      .ok (Numeral.digitsOf n, ⟨rest, p'⟩) := by
  by_cases hzero : n = 0
  · subst hzero
    have hnext : rest.head?.any isDigit = false := by
      cases rest with
      | nil => rfl
      | cons byte rest => exact (hrest byte rfl).1
    refine ⟨stepOver p 48, ?_⟩
    change (if rest.head?.any isDigit = true then _ else _) = _
    rw [hnext]
    rfl
  · obtain ⟨byte, tail, hbytes, hdigit, hne⟩ := encode_toDigits_eq_cons n
    obtain ⟨hdigits, hvalues⟩ := encode_toDigits n
    obtain ⟨p', htake⟩ := takeDigitsFrom_append hdigits hrest p
    refine ⟨p', ?_⟩
    rw [← hvalues, ← htake, hbytes]
    exact (if_neg (hne hzero)).trans (if_pos hdigit)

/-- No fraction and no exponent begins where a number stops. -/
theorem sees_of_stops {rest bytes : List UInt8} (hrest : Stops rest) (p : Position)
    (h : ∀ byte ∈ bytes, byte = 46 ∨ byte = 101 ∨ byte = 69) : sees ⟨rest, p⟩ bytes = false := by
  cases rest with
  | nil => rfl
  | cons byte rest =>
    obtain ⟨-, hpoint, hlower, hupper⟩ := hrest byte rfl
    have hnot : byte ∉ bytes := by
      intro hmem
      rcases h byte hmem with heq | heq | heq
      · exact hpoint heq
      · exact hlower heq
      · exact hupper heq
    change bytes.contains byte = false
    simpa using hnot

/-- The digits of an integer are read as the number that they form with a sign, and refused if it is
not finite. -/
theorem readNumber_toDigits (negative : Bool) (n : Nat) {rest : List UInt8} (hrest : Stops rest)
    (p : Position) : ∃ p',
      readNumber ⟨encode (Nat.toDigits 10 n) ++ rest, p⟩ negative =
        match Numeral.number? ⟨negative, Numeral.digitsOf n, [], false⟩ 0 with
        | some x => .ok (x, ⟨rest, p'⟩)
        | none => .error ⟨.malformed .numberOutOfRange, p'⟩ := by
  obtain ⟨p', hwhole⟩ := readWhole_toDigits n hrest p
  have hfraction : readFraction ⟨rest, p'⟩ = .ok (none, ⟨rest, p'⟩) := by
    rw [readFraction, sees_of_stops hrest p' (by simp)]
    rfl
  have hexponent : ∀ isZero, readExponent ⟨rest, p'⟩ isZero = .ok (none, ⟨rest, p'⟩) := by
    intro isZero
    rw [readExponent, sees_of_stops hrest p' (by simp)]
    rfl
  refine ⟨p', ?_⟩
  rw [readNumber, hwhole]
  simp only [bind, Except.bind, hfraction, hexponent, Option.getD_none, Option.isSome_none,
    Bool.or_false]
  cases Numeral.number? ⟨negative, Numeral.digitsOf n, [], false⟩ 0 <;> rfl

end DocQuery.Json
