import DocQuery.Proofs.Json.Lexemes
import DocQuery.Proofs.Json.Text
import DocQuery.Proofs.Steps

/-!
# Reading values back

The compact text of a value whose numbers are integers is decoded to the value, unless arrays and
objects are nested too deep, which is then the reason the text is refused for. Arrays and objects
are read alike, as lists of elements between brackets; what holds of the elements holds of the list.
-/

namespace DocQuery.Json

open Cursor Utf8

/-- A reader refuses bytes, wherever they stand, because arrays and objects are nested too deep. -/
def RefusesDepth {α : Type} (read : Cursor → Decoding (α × Cursor)) (bytes : List UInt8) : Prop :=
  ∀ rest p, ∃ p', read ⟨bytes ++ rest, p⟩ = .error ⟨.malformed .tooDeep, p'⟩

/-! ### Lists -/

section Lists

variable {α : Type} {readOne : Cursor → Decoding (α × Cursor)} {close : UInt8}
  {piece : α → List Char} {readList : Nat → Bool → Cursor → Decoding (List α × Cursor)}

/-- Reads an element and then the rest of a list. -/
def readFurther (readOne : Cursor → Decoding (α × Cursor))
    (readList : Nat → Bool → Cursor → Decoding (List α × Cursor)) (fuel : Nat) (c : Cursor) :
    Decoding (List α × Cursor) := do
  let (a, c) ← readOne c
  let (as, c) ← readList fuel false c
  .ok (a :: as, c)

/-- A reader of lists reads one element after the other, with commas between them, up to the closing
bracket. -/
structure ReadsList (readOne : Cursor → Decoding (α × Cursor)) (close : UInt8)
    (piece : α → List Char) (readList : Nat → Bool → Cursor → Decoding (List α × Cursor)) :
    Prop where
  /-- The closing bracket does not continue a number. -/
  stops : ∀ rest, Stops (close :: rest)
  closing : ∀ fuel first rest p,
    readList (fuel + 1) first ⟨close :: rest, p⟩ = .ok ([], ⟨rest, stepOver p close⟩)
  first : ∀ fuel a rest p, readList (fuel + 1) true ⟨encode (piece a) ++ rest, p⟩ =
    readFurther readOne readList fuel ⟨encode (piece a) ++ rest, p⟩
  next : ∀ fuel a rest p, readList (fuel + 1) false ⟨44 :: (encode (piece a) ++ rest), p⟩ =
    readFurther readOne readList fuel ⟨encode (piece a) ++ rest, stepOver p 44⟩

/-- The bytes of the elements of a list, with a comma before each of them. -/
def tailBytes (piece : α → List Char) (as : List α) : List UInt8 :=
  encode (as.flatMap fun a => ',' :: piece a)

private theorem tailBytes_cons (a : α) (as : List α) :
    tailBytes piece (a :: as) = 44 :: (encode (piece a) ++ tailBytes piece as) := by
  rw [tailBytes, List.flatMap_cons, encode_append, encode_cons]
  rfl

/-- There are at least as many bytes as pieces. -/
theorem length_le_length_tailBytes (piece : α → List Char) (as : List α) :
    as.length ≤ (tailBytes piece as).length := by
  induction as with
  | nil => exact Nat.zero_le _
  | cons a as ih =>
    rw [tailBytes_cons, List.length_cons, List.length_cons, List.length_append]
    omega

private theorem encode_separated_cons (a : α) (as : List α) :
    encode (separated piece (a :: as)) = encode (piece a) ++ tailBytes piece as :=
  encode_append _ _

/-- After an element there is a comma or the closing bracket. -/
theorem ReadsList.stops_tail (h : ReadsList readOne close piece readList) (as : List α)
    (rest : List UInt8) : Stops (tailBytes piece as ++ close :: rest) := by
  cases as with
  | nil => exact h.stops rest
  | cons a as =>
    rw [tailBytes_cons]
    rintro _ ⟨⟩
    decide

section Further

variable {a : α} {as : List α} {fuel : Nat} {rest : List UInt8}

/-- An element and what follows it are read if both are. -/
theorem ReadsList.takes_further (h : ReadsList readOne close piece readList)
    (ha : Takes readOne (encode (piece a)) a)
    (htail : ∀ p, ∃ p', readList fuel false ⟨tailBytes piece as ++ close :: rest, p⟩ =
      .ok (as, ⟨rest, p'⟩)) (p : Position) : ∃ p',
    readFurther readOne readList fuel
      ⟨encode (piece a) ++ (tailBytes piece as ++ close :: rest), p⟩ =
        .ok (a :: as, ⟨rest, p'⟩) := by
  obtain ⟨p₁, hone⟩ := ha (tailBytes piece as ++ close :: rest) p (h.stops_tail as rest)
  obtain ⟨p₂, hrest⟩ := htail p₁
  refine ⟨p₂, ?_⟩
  rw [readFurther, hone]
  simp only [bind, Except.bind, hrest]

/-- An element and what follows it are refused if the element is, or what follows it once the
element is read. -/
theorem ReadsList.refuses_further (h : ReadsList readOne close piece readList)
    (ha : RefusesDepth readOne (encode (piece a)) ∨ Takes readOne (encode (piece a)) a ∧
      ∀ p, ∃ p', readList fuel false ⟨tailBytes piece as ++ close :: rest, p⟩ =
        .error ⟨.malformed .tooDeep, p'⟩) (p : Position) : ∃ p',
    readFurther readOne readList fuel
      ⟨encode (piece a) ++ (tailBytes piece as ++ close :: rest), p⟩ =
        .error ⟨.malformed .tooDeep, p'⟩ := by
  rw [readFurther]
  rcases ha with hrefused | ⟨htaken, htail⟩
  · obtain ⟨p', hone⟩ := hrefused (tailBytes piece as ++ close :: rest) p
    refine ⟨p', ?_⟩
    rw [hone]
    rfl
  · obtain ⟨p₁, hone⟩ := htaken (tailBytes piece as ++ close :: rest) p (h.stops_tail as rest)
    obtain ⟨p₂, hrest⟩ := htail p₁
    refine ⟨p₂, ?_⟩
    rw [hone]
    simp only [bind, Except.bind, hrest]

end Further

/-- What follows an element is read if the elements are. -/
theorem ReadsList.takes_tail (h : ReadsList readOne close piece readList) {as : List α}
    (hone : ∀ a ∈ as, Takes readOne (encode (piece a)) a) {fuel : Nat} (hfuel : as.length < fuel)
    (rest : List UInt8) (p : Position) : ∃ p',
      readList fuel false ⟨tailBytes piece as ++ close :: rest, p⟩ = .ok (as, ⟨rest, p'⟩) := by
  obtain ⟨fuel, rfl⟩ := Nat.exists_eq_add_one.mpr (Nat.zero_lt_of_lt hfuel)
  induction as generalizing fuel p with
  | nil => exact ⟨_, h.closing fuel false rest p⟩
  | cons a as ih =>
    obtain ⟨fuel, rfl⟩ := Nat.exists_eq_add_one.mpr
      (Nat.zero_lt_of_lt (Nat.lt_of_succ_lt_succ hfuel))
    rw [tailBytes_cons, List.cons_append, List.append_assoc, h.next]
    exact h.takes_further (hone a List.mem_cons_self) (fun p =>
      ih (fun b hb => hone b (List.mem_cons_of_mem a hb)) p fuel (Nat.lt_of_succ_lt_succ hfuel)) _

/-- A list is read if its elements are. -/
theorem ReadsList.takes (h : ReadsList readOne close piece readList) {as : List α}
    (hone : ∀ a ∈ as, Takes readOne (encode (piece a)) a) {fuel : Nat} (hfuel : as.length < fuel)
    (rest : List UInt8) (p : Position) : ∃ p',
      readList fuel true ⟨encode (separated piece as) ++ close :: rest, p⟩ =
        .ok (as, ⟨rest, p'⟩) := by
  obtain ⟨fuel, rfl⟩ := Nat.exists_eq_add_one.mpr (Nat.zero_lt_of_lt hfuel)
  cases as with
  | nil => exact ⟨_, h.closing fuel true rest p⟩
  | cons a as =>
    rw [encode_separated_cons, List.append_assoc, h.first]
    exact h.takes_further (hone a List.mem_cons_self) (fun p => h.takes_tail
      (fun b hb => hone b (List.mem_cons_of_mem a hb)) (Nat.lt_of_succ_lt_succ hfuel) rest p) p

/-- One of several elements is refused, and those that are not are read. -/
def RefusesOne (readOne : Cursor → Decoding (α × Cursor)) (piece : α → List Char)
    (as : List α) : Prop :=
  (∀ a ∈ as, RefusesDepth readOne (encode (piece a)) ∨ Takes readOne (encode (piece a)) a) ∧
    ∃ a ∈ as, RefusesDepth readOne (encode (piece a))

/-- If the elements up to some size are read and the others refused, one of the others is enough. -/
theorem RefusesOne.of_size {as : List α} {size : α → Nat} {bound : Nat}
    (h : ∀ a ∈ as, (size a ≤ bound → Takes readOne (encode (piece a)) a) ∧
      (bound < size a → RefusesDepth readOne (encode (piece a))))
    (hlarge : ¬∀ a ∈ as, size a ≤ bound) : RefusesOne readOne piece as := by
  constructor
  · intro a hmem
    by_cases hsize : size a ≤ bound
    · exact .inr ((h a hmem).1 hsize)
    · exact .inl ((h a hmem).2 (Nat.lt_of_not_le hsize))
  · by_contra hnone
    refine hlarge fun a hmem => Nat.le_of_not_lt fun hsize => hnone ?_
    exact ⟨a, hmem, (h a hmem).2 hsize⟩

/-- Either the first element is refused or one of the others. -/
theorem RefusesOne.first_or_later {a : α} {as : List α} (h : RefusesOne readOne piece (a :: as)) :
    RefusesDepth readOne (encode (piece a)) ∨
      Takes readOne (encode (piece a)) a ∧ RefusesOne readOne piece as := by
  obtain ⟨heach, b, hmem, hb⟩ := h
  by_cases ha : RefusesDepth readOne (encode (piece a))
  · exact .inl ha
  · have hlater : b ∈ as := by
      rcases List.mem_cons.mp hmem with rfl | hmem
      · exact absurd hb ha
      · exact hmem
    exact .inr ⟨(heach a List.mem_cons_self).resolve_left ha,
      fun c hc => heach c (List.mem_cons_of_mem a hc), b, hlater, hb⟩

/-- What follows an element is refused if one of the elements is. -/
theorem ReadsList.refuses_tail (h : ReadsList readOne close piece readList) {as : List α}
    (hone : RefusesOne readOne piece as) {fuel : Nat} (hfuel : as.length < fuel)
    (rest : List UInt8) (p : Position) : ∃ p',
      readList fuel false ⟨tailBytes piece as ++ close :: rest, p⟩ =
        .error ⟨.malformed .tooDeep, p'⟩ := by
  obtain ⟨fuel, rfl⟩ := Nat.exists_eq_add_one.mpr (Nat.zero_lt_of_lt hfuel)
  induction as generalizing fuel p with
  | nil =>
    obtain ⟨-, a, hmem, -⟩ := hone
    exact absurd hmem List.not_mem_nil
  | cons a as ih =>
    obtain ⟨fuel, rfl⟩ := Nat.exists_eq_add_one.mpr
      (Nat.zero_lt_of_lt (Nat.lt_of_succ_lt_succ hfuel))
    rw [tailBytes_cons, List.cons_append, List.append_assoc, h.next]
    exact h.refuses_further (hone.first_or_later.imp_right fun hlater => ⟨hlater.1, fun p =>
      ih hlater.2 p fuel (Nat.lt_of_succ_lt_succ hfuel)⟩) _

/-- A list is refused if one of its elements is. -/
theorem ReadsList.refuses (h : ReadsList readOne close piece readList) {as : List α}
    (hone : RefusesOne readOne piece as) {fuel : Nat} (hfuel : as.length < fuel)
    (rest : List UInt8) (p : Position) : ∃ p',
      readList fuel true ⟨encode (separated piece as) ++ close :: rest, p⟩ =
        .error ⟨.malformed .tooDeep, p'⟩ := by
  obtain ⟨fuel, rfl⟩ := Nat.exists_eq_add_one.mpr (Nat.zero_lt_of_lt hfuel)
  cases as with
  | nil =>
    obtain ⟨-, a, hmem, -⟩ := hone
    exact absurd hmem List.not_mem_nil
  | cons a as =>
    rw [encode_separated_cons, List.append_assoc, h.first]
    exact h.refuses_further (hone.first_or_later.imp_right fun hlater => ⟨hlater.1, fun p =>
      h.refuses_tail hlater.2 (Nat.lt_of_succ_lt_succ hfuel) rest p⟩) p

end Lists

/-! ### Items and members -/

private theorem sees_singleton {byte other : UInt8} (h : byte ≠ other) (rest : List UInt8)
    (p : Position) : sees ⟨byte :: rest, p⟩ [other] = false := by
  change [other].contains byte = false
  simpa using h

/-- A character that values start with is a byte that is no blank and closes nothing. -/
theorem byte_of_leadKind? {c : Char} {kind : Kind} (h : leadKind? c = some kind) :
    ∃ byte, String.utf8EncodeChar c = [byte] ∧ isBlank byte = false ∧ byte ≠ 93 := by
  unfold leadKind? at h
  split at h
  case h_7 =>
    have hnumeral : isNumeralChar c = true := by
      by_contra hnot
      rw [if_neg hnot] at h
      cases h
    rw [isNumeralChar, Bool.or_eq_true, decide_eq_true_iff] at hnumeral
    rcases hnumeral with hc | hc
    · obtain ⟨byte, hbyte, hvalue, -⟩ := utf8EncodeChar_digit hc
      exact ⟨byte, hbyte, isBlank_of_isDigit hvalue, ne_of_isDigit hvalue (by decide)⟩
    · simp only [List.mem_cons, List.not_mem_nil, or_false] at hc
      rcases hc with rfl | rfl | rfl | rfl <;> exact ⟨_, rfl, by decide⟩
  all_goals exact ⟨_, rfl, by decide⟩

/-- The text of a value starts with a byte that is no blank and closes nothing. -/
theorem encode_chars_eq_cons (value : Json) : ∃ byte tail, encode value.chars = byte :: tail ∧
    isBlank byte = false ∧ byte ≠ 93 := by
  obtain ⟨c, chars, hchars, hlead⟩ := exists_lead value
  obtain ⟨byte, hbyte, hne⟩ := byte_of_leadKind? hlead
  refine ⟨byte, encode chars, ?_, hne⟩
  rw [hchars, encode_cons, hbyte]
  rfl

/-- The reader of items reads a list of values up to a bracket. -/
theorem readsList_items (read : Cursor → Decoding (Json × Cursor)) :
    ReadsList read 93 chars (readItems read) where
  stops rest := by
    rintro _ ⟨⟩
    decide
  closing fuel first rest p := rfl
  first fuel item rest p := by
    obtain ⟨byte, tail, hbytes, hblank, hclose⟩ := encode_chars_eq_cons item
    rw [hbytes, List.cons_append, readItems]
    simp only [skipBlanks_of_not_isBlank hblank, sees_singleton hclose]
    rfl
  next fuel item rest p := by
    obtain ⟨byte, tail, hbytes, hblank, hclose⟩ := encode_chars_eq_cons item
    have hcomma : isBlank 44 = false := rfl
    have hnext : advance ⟨44 :: byte :: (tail ++ rest), p⟩ =
      ⟨byte :: (tail ++ rest), stepOver p 44⟩ := rfl
    rw [hbytes, List.cons_append, readItems]
    simp only [skipBlanks_of_not_isBlank hcomma, hnext, skipBlanks_of_not_isBlank hblank,
      Bool.false_eq_true, if_false, sees_singleton hclose]
    rfl

/-- Reads a member of an object. -/
def readMember (read : Cursor → Decoding (Json × Cursor)) (c : Cursor) :
    Decoding ((String × Json) × Cursor) := do
  let (key, c) ← c.advance.readString
  let c ← c.readColon
  let (value, c) ← read c
  .ok ((key, value), c)

/-- The bytes of a member are those of its key between quotes, a colon, and those of its value. -/
theorem encode_memberText (entry : String × Json) : encode (memberText entry) =
    34 :: (encode (entry.1.toList.flatMap escape) ++ 34 :: 58 :: encode entry.2.chars) := by
  have hquote : String.utf8EncodeChar '"' = [34] := rfl
  have hcolon : String.utf8EncodeChar ':' = [58] := rfl
  simp only [memberText, quoteChars, encode_append, encode_cons, hquote, hcolon, List.cons_append,
    List.nil_append, List.append_assoc]

/-- The reader of members reads a list of members up to a brace. -/
theorem readsList_members (read : Cursor → Decoding (Json × Cursor)) :
    ReadsList (readMember read) 125 memberText (readMembers read) where
  stops rest := by
    rintro _ ⟨⟩
    decide
  closing fuel first rest p := rfl
  first fuel entry rest p := by
    rw [encode_memberText, List.cons_append, readMembers]
    simp only [readFurther, readMember, bind_assoc]
    rfl
  next fuel entry rest p := by
    rw [encode_memberText, List.cons_append, readMembers]
    simp only [readFurther, readMember, bind_assoc]
    rfl

/-- Once its key and the colon are read, a member is read as its value is. -/
theorem readMember_encode (read : Cursor → Decoding (Json × Cursor)) (entry : String × Json)
    (rest : List UInt8) (p : Position) : ∃ p',
      readMember read ⟨encode (memberText entry) ++ rest, p⟩ =
        read ⟨encode entry.2.chars ++ rest, p'⟩ >>= fun r => .ok ((entry.1, r.1), r.2) := by
  obtain ⟨p', hkey⟩ := readString_quoted entry.1 (58 :: (encode entry.2.chars ++ rest))
    (stepOver p 34)
  refine ⟨stepOver p' 58, ?_⟩
  rw [encode_memberText, List.cons_append, List.append_assoc, List.cons_append, List.cons_append]
  exact congrArg (· >>= fun r => r.2.readColon >>= fun c => read c >>= fun v =>
    .ok ((r.1, v.1), v.2)) hkey

section Nested

variable {read : Cursor → Decoding (Json × Cursor)} {entry : String × Json}

/-- A member is read back if its value is. -/
theorem takes_member (h : Takes read (encode entry.2.chars) entry.2) :
    Takes (readMember read) (encode (memberText entry)) entry := by
  intro rest p hrest
  obtain ⟨p₁, hmember⟩ := readMember_encode read entry rest p
  obtain ⟨p₂, hvalue⟩ := h rest p₁ hrest
  refine ⟨p₂, ?_⟩
  rw [hmember, hvalue]
  rfl

/-- A member is refused for its depth if its value is. -/
theorem refusesDepth_member (h : RefusesDepth read (encode entry.2.chars)) :
    RefusesDepth (readMember read) (encode (memberText entry)) := by
  intro rest p
  obtain ⟨p₁, hmember⟩ := readMember_encode read entry rest p
  obtain ⟨p₂, hvalue⟩ := h rest p₁
  refine ⟨p₂, ?_⟩
  rw [hmember, hvalue]
  rfl

end Nested

/-! ### Values -/

/-- A value that is neither an array nor an object is read at any depth. -/
theorem readValue_scalar {byte : UInt8} (hblank : isBlank byte = false) (harr : byte ≠ 91)
    (hobj : byte ≠ 123) (depth : Nat) (rest : List UInt8) (p : Position) :
    readValue depth ⟨byte :: rest, p⟩ = readScalar ⟨byte :: rest, p⟩ byte := by
  have hopens : ¬(byte = 91 || byte = 123) = true := by simp [harr, hobj]
  cases depth with
  | zero =>
    simp only [readValue, skipBlanks_of_not_isBlank hblank]
    exact if_neg hopens
  | succ depth =>
    simp only [readValue, skipBlanks_of_not_isBlank hblank]
    exact if_neg hopens

/-- Null is read back. -/
theorem takes_null (depth : Nat) : Takes (readValue depth) (encode null.chars) null := by
  intro rest p _
  obtain ⟨p', hword⟩ := readWord_self [117, 108, 108] rest (stepOver p 110)
  refine ⟨p', (readValue_scalar (by decide) (by decide) (by decide) depth _ p).trans ?_⟩
  exact congrArg (· >>= fun c => pure (null, c)) hword

/-- Booleans are read back. -/
theorem takes_bool (depth : Nat) (b : Bool) :
    Takes (readValue depth) (encode (bool b).chars) (bool b) := by
  intro rest p _
  cases b with
  | true =>
    obtain ⟨p', hword⟩ := readWord_self [114, 117, 101] rest (stepOver p 116)
    refine ⟨p', (readValue_scalar (by decide) (by decide) (by decide) depth _ p).trans ?_⟩
    exact congrArg (· >>= fun c => pure (bool true, c)) hword
  | false =>
    obtain ⟨p', hword⟩ := readWord_self [97, 108, 115, 101] rest (stepOver p 102)
    refine ⟨p', (readValue_scalar (by decide) (by decide) (by decide) depth _ p).trans ?_⟩
    exact congrArg (· >>= fun c => pure (bool false, c)) hword

/-- Strings are read back. -/
theorem takes_str (depth : Nat) (s : String) :
    Takes (readValue depth) (encode (str s).chars) (str s) := by
  intro rest p _
  obtain ⟨p', hstring⟩ := readString_quoted s rest (stepOver p 34)
  have hbytes : encode (str s).chars ++ rest =
      34 :: (encode (s.toList.flatMap escape) ++ 34 :: rest) := by
    have hquote : String.utf8EncodeChar '"' = [34] := rfl
    simp only [chars, quoteChars, encode_append, encode_cons, encode_nil, hquote,
      List.cons_append, List.nil_append, List.append_assoc]
  refine ⟨p', ?_⟩
  rw [hbytes, readValue_scalar (by decide) (by decide) (by decide)]
  exact congrArg (· >>= fun r => pure (str r.1, r.2)) hstring

/-- An integer literal is read after its sign, if it has one, or from its first digit on. -/
theorem readValue_literal (depth : Nat) (negative : Bool) (n : Nat) {rest : List UInt8}
    (hrest : Stops rest) (p : Position) : ∃ p',
      readValue depth
        ⟨encode ((if negative then ['-'] else []) ++ Nat.toDigits 10 n) ++ rest, p⟩ =
          match Numeral.number? ⟨negative, Numeral.digitsOf n, [], false⟩ 0 with
          | some x => .ok (num x, ⟨rest, p'⟩)
          | none => .error ⟨.malformed .numberOutOfRange, p'⟩ := by
  -- The sign is read before the number, so only one that is not negative starts with its digits.
  cases negative with
  | true =>
    obtain ⟨p', hnumber⟩ := readNumber_toDigits true n hrest (stepOver p 45)
    refine ⟨p', ?_⟩
    rw [if_pos rfl, List.singleton_append, encode_cons]
    change readValue depth ⟨45 :: (encode (Nat.toDigits 10 n) ++ rest), p⟩ = _
    rw [readValue_scalar (by decide) (by decide) (by decide)]
    change (readNumber ⟨encode (Nat.toDigits 10 n) ++ rest, stepOver p 45⟩ true >>= fun r =>
      pure (num r.1, r.2)) = _
    rw [hnumber]
    cases Numeral.number? ⟨true, Numeral.digitsOf n, [], false⟩ 0 <;> rfl
  | false =>
    obtain ⟨p', hnumber⟩ := readNumber_toDigits false n hrest p
    refine ⟨p', ?_⟩
    obtain ⟨byte, tail, hdigits, hdigit, -⟩ := encode_toDigits_eq_cons n
    have hne : ∀ other, isDigit other = false → byte ≠ other := fun _ => ne_of_isDigit hdigit
    have hscalar : ∀ rest, readScalar ⟨byte :: rest, p⟩ byte =
        readNumber ⟨byte :: rest, p⟩ false >>= fun r => pure (num r.1, r.2) := by
      intro rest
      rw [readScalar, if_neg (hne 110 (by decide)), if_neg (hne 116 (by decide)),
        if_neg (hne 102 (by decide)), if_neg (hne 45 (by decide)), if_pos hdigit]
    rw [if_neg (by decide), List.nil_append]
    rw [hdigits, List.cons_append] at hnumber ⊢
    rw [readValue_scalar (isBlank_of_isDigit hdigit) (hne 91 (by decide)) (hne 123 (by decide)),
      hscalar, hnumber]
    cases Numeral.number? ⟨false, Numeral.digitsOf n, [], false⟩ 0 <;> rfl

/-- Integers are read back. -/
theorem takes_int (depth : Nat) (n : Int) (bounds : -Number.signedBound ≤ n ∧ n < UInt64.size) :
    Takes (readValue depth) (encode (num (.int n bounds)).chars) (num (.int n bounds)) := by
  intro rest p hrest
  obtain ⟨p', hread⟩ := readValue_literal depth (n < 0) n.natAbs hrest p
  rw [Numeral.number?_digitsOf n bounds] at hread
  refine ⟨p', ?_⟩
  rw [chars, Number.text, Number.toList_toString]
  simpa only [decide_eq_true_eq] using hread

/-! ### Arrays and objects -/

/-- The bytes of an array are its items between brackets. -/
theorem encode_chars_arr (items : List Json) (rest : List UInt8) :
    encode (arr items).chars ++ rest = 91 :: (encode (separated chars items) ++ 93 :: rest) := by
  have hopen : String.utf8EncodeChar '[' = [91] := rfl
  have hclose : encode [']'] = [93] := rfl
  rw [chars, itemChars_eq, encode_append, encode_cons, hopen, hclose, List.append_assoc,
    List.append_assoc]
  rfl

/-- The bytes of an object are its members between braces. -/
theorem encode_chars_obj (members : List (String × Json)) (rest : List UInt8) :
    encode (obj members).chars ++ rest =
      123 :: (encode (separated memberText members) ++ 125 :: rest) := by
  have hopen : String.utf8EncodeChar '\x7b' = [123] := rfl
  have hclose : encode ['\x7d'] = [125] := rfl
  rw [chars, memberChars_eq, encode_append, encode_cons, hopen, hclose, List.append_assoc,
    List.append_assoc]
  rfl

/-- A list has fewer elements than bytes, its brackets included. -/
theorem length_lt_length_separated {α : Type} (piece : α → List Char) (as : List α)
    (opening close : UInt8) (rest : List UInt8) :
    as.length < (opening :: (encode (separated piece as) ++ close :: rest)).length := by
  cases as with
  | nil => exact Nat.zero_lt_succ _
  | cons a as =>
    have htail := length_le_length_tailBytes piece as
    simp only [encode_separated_cons, List.length_cons, List.length_append]
    omega

/-- At depth zero no array or object is read. -/
theorem readValue_zero {byte : UInt8} (h : byte = 91 ∨ byte = 123) (rest : List UInt8)
    (p : Position) :
    readValue 0 ⟨byte :: rest, p⟩ = .error ⟨.malformed .tooDeep, stepOver p byte⟩ := by
  rw [readValue]
  rcases h with rfl | rfl <;> rfl

/-- After an opening bracket, items are read one level deeper. -/
theorem readValue_arr (depth : Nat) (rest : List UInt8) (p : Position) :
    readValue (depth + 1) ⟨91 :: rest, p⟩ =
      readItems (readValue depth) (91 :: rest).length true ⟨rest, stepOver p 91⟩ >>=
        fun r => .ok (arr r.1, r.2) := by
  rw [readValue]
  rfl

/-- After an opening brace, members are read one level deeper. -/
theorem readValue_obj (depth : Nat) (rest : List UInt8) (p : Position) :
    readValue (depth + 1) ⟨123 :: rest, p⟩ =
      readMembers (readValue depth) (123 :: rest).length true ⟨rest, stepOver p 123⟩ >>=
        fun r => .ok (obj (Entries.ofList r.1), r.2) := by
  rw [readValue]
  rfl

section Nested

variable {depth : Nat} {items : List Json} {members : List (String × Json)}

/-- An array is read back if its items are, one level deeper. -/
theorem takes_arr (h : ∀ item ∈ items, Takes (readValue depth) (encode item.chars) item) :
    Takes (readValue (depth + 1)) (encode (arr items).chars) (arr items) := by
  intro rest p _
  -- The fuel of the list is the number of bytes from its bracket on.
  obtain ⟨p', hitems⟩ := (readsList_items (readValue depth)).takes h
    (length_lt_length_separated chars items 91 93 rest) rest (stepOver p 91)
  refine ⟨p', ?_⟩
  rw [encode_chars_arr, readValue_arr, hitems]
  rfl

/-- An array is refused for its depth if one of its items is, one level deeper. -/
theorem refusesDepth_arr (h : RefusesOne (readValue depth) chars items) :
    RefusesDepth (readValue (depth + 1)) (encode (arr items).chars) := by
  intro rest p
  obtain ⟨p', hitems⟩ := (readsList_items (readValue depth)).refuses h
    (length_lt_length_separated chars items 91 93 rest) rest (stepOver p 91)
  refine ⟨p', ?_⟩
  rw [encode_chars_arr, readValue_arr, hitems]
  rfl

/-- An object with sorted keys is read back if its values are, one level deeper. -/
theorem takes_obj (hsorted : Entries.Sorted members)
    (h : ∀ entry ∈ members, Takes (readValue depth) (encode entry.2.chars) entry.2) :
    Takes (readValue (depth + 1)) (encode (obj members).chars) (obj members) := by
  intro rest p _
  obtain ⟨p', hmembers⟩ := (readsList_members (readValue depth)).takes
    (fun entry hmem => takes_member (h entry hmem))
    (length_lt_length_separated memberText members 123 125 rest) rest (stepOver p 123)
  refine ⟨p', ?_⟩
  rw [encode_chars_obj, readValue_obj, hmembers]
  simp only [bind, Except.bind, Entries.ofList_of_sorted hsorted]

/-- An object is refused for its depth if one of its members is, one level deeper. -/
theorem refusesDepth_obj (h : RefusesOne (readMember (readValue depth)) memberText members) :
    RefusesDepth (readValue (depth + 1)) (encode (obj members).chars) := by
  intro rest p
  obtain ⟨p', hmembers⟩ := (readsList_members (readValue depth)).refuses h
    (length_lt_length_separated memberText members 123 125 rest) rest (stepOver p 123)
  refine ⟨p', ?_⟩
  rw [encode_chars_obj, readValue_obj, hmembers]
  rfl

end Nested

/-- A value whose numbers are integers is read where its depth is allowed, and refused elsewhere. -/
theorem readValue_text (value : Json) (hwf : value.WellFormed)
    (hint : ∀ x, ¬value.Contains (.float x)) (bound : Nat) :
    (value.depth ≤ bound → Takes (readValue bound) (encode value.chars) value) ∧
      (bound < value.depth → RefusesDepth (readValue bound) (encode value.chars)) := by
  induction value using inductionOn generalizing bound with
  | null => exact ⟨fun _ => takes_null bound, nofun⟩
  | bool b => exact ⟨fun _ => takes_bool bound b, nofun⟩
  | num n =>
    cases n with
    | int n bounds => exact ⟨fun _ => takes_int bound n bounds, nofun⟩
    | float x => exact absurd .number (hint x)
  | str s => exact ⟨fun _ => takes_str bound s, nofun⟩
  | arr items ih =>
    rw [wellFormed_arr] at hwf
    -- One level of depth is spent on the array itself, if there is one.
    cases bound with
    | zero =>
      refine ⟨nofun, fun _ rest p => ?_⟩
      rw [encode_chars_arr]
      exact ⟨_, readValue_zero (.inl rfl) _ p⟩
    | succ bound =>
      have hitems : ∀ item ∈ items, (item.depth ≤ bound →
          Takes (readValue bound) (encode item.chars) item) ∧
          (bound < item.depth → RefusesDepth (readValue bound) (encode item.chars)) :=
        fun item hmem => ih item hmem (hwf item hmem) (fun x hx => hint x (.item hmem hx)) bound
      constructor
      · intro hfits
        rw [depth_arr_le_iff] at hfits
        exact takes_arr fun item hmem => (hitems item hmem).1 (hfits item hmem)
      · intro hdeep
        refine refusesDepth_arr (.of_size hitems ?_)
        rwa [← depth_arr_le_iff, Nat.not_le]
  | obj members ih =>
    rw [wellFormed_obj] at hwf
    obtain ⟨hsorted, hwf⟩ := hwf
    cases bound with
    | zero =>
      refine ⟨nofun, fun _ rest p => ?_⟩
      rw [encode_chars_obj]
      exact ⟨_, readValue_zero (.inr rfl) _ p⟩
    | succ bound =>
      have hvalues : ∀ entry ∈ members, (entry.2.depth ≤ bound →
          Takes (readValue bound) (encode entry.2.chars) entry.2) ∧
          (bound < entry.2.depth → RefusesDepth (readValue bound) (encode entry.2.chars)) :=
        fun entry hmem =>
          ih entry hmem (hwf entry hmem) (fun x hx => hint x (.member hmem hx)) bound
      constructor
      · intro hfits
        rw [depth_obj_le_iff] at hfits
        exact takes_obj hsorted fun entry hmem => (hvalues entry hmem).1 (hfits entry hmem)
      · intro hdeep
        refine refusesDepth_obj (.of_size (fun entry hmem =>
          ⟨fun hfits => takes_member ((hvalues entry hmem).1 hfits),
            fun hdeep => refusesDepth_member ((hvalues entry hmem).2 hdeep)⟩) ?_)
        rwa [← depth_obj_le_iff, Nat.not_le]

/-! ### Texts -/

variable {value : Json}

/-- The text of a value whose numbers are integers is decoded to the value, if the value is not
nested too deep. -/
theorem decode_text (hwf : value.WellFormed) (hint : ∀ x, ¬value.Contains (.float x))
    (h : value.depth ≤ maxDepth) : decode value.text.toUTF8.toList = .ok value := by
  obtain ⟨p, hread⟩ := (readValue_text value hwf hint maxDepth).1 h [] ⟨1, 0⟩ nofun
  rw [List.append_nil] at hread
  rw [decode, decodeFirst, start, toList_toUTF8, text, String.toList_ofList, hread]
  rfl

/-- The text of a value that is nested too deep is refused for that. -/
theorem decode_text_of_deep (hwf : value.WellFormed) (hint : ∀ x, ¬value.Contains (.float x))
    (h : maxDepth < value.depth) :
    ∃ p, decode value.text.toUTF8.toList = .error ⟨.malformed .tooDeep, p⟩ := by
  obtain ⟨p, hread⟩ := (readValue_text value hwf hint maxDepth).2 h [] ⟨1, 0⟩
  rw [List.append_nil] at hread
  refine ⟨p, ?_⟩
  rw [decode, decodeFirst, start, toList_toUTF8, text, String.toList_ofList, hread]
  rfl

/-- What a text is decoded to is known from its compact text. -/
theorem decodeText_eq_ok_of_text {s : String}
    (h : (decodeText s).toOption.map text = some value.text) : decodeText s = .ok value := by
  obtain ⟨decoded, hdecoded, htext⟩ := Option.map_eq_some_iff.mp h
  rw [← text_injective htext]
  exact toOption_eq_some_iff.mp hdecoded

end DocQuery.Json
