import DocQuery.Text.Utf8

/-!
# The bytes of a text

A text is encoded one character after the other, and its bytes are decoded to the text. A byte below
128 is a character of its own; no other character has such a byte, so after it bytes can be cut.
-/

namespace DocQuery.Utf8

/-- The bytes that encode characters. -/
def encode (chars : List Char) : List UInt8 := chars.flatMap String.utf8EncodeChar

/-- No characters have no bytes. -/
@[simp] theorem encode_nil : encode [] = [] := rfl

/-- Characters are encoded from the first one on. -/
theorem encode_cons (c : Char) (chars : List Char) :
    encode (c :: chars) = String.utf8EncodeChar c ++ encode chars := List.flatMap_cons

/-- Characters are encoded one after the other. -/
@[simp] theorem encode_append (as bs : List Char) : encode (as ++ bs) = encode as ++ encode bs :=
  List.flatMap_append

private theorem toList_loop_eq (bytes : ByteArray) (i : Nat) (read : List UInt8) :
    ByteArray.toList.loop bytes i read = read.reverse ++ bytes.data.toList.drop i := by
  fun_induction ByteArray.toList.loop bytes i read with
  | case1 i read h ih =>
    have hi : i < bytes.data.toList.length := h
    rw [ih, List.drop_eq_getElem_cons hi, List.reverse_cons, List.append_assoc,
      List.singleton_append, ByteArray.get!, getElem!_pos bytes.data i h, Array.getElem_toList]
  | case2 i read h =>
    rw [List.drop_eq_nil_of_le (Nat.le_of_not_lt h), List.append_nil]

/-- The bytes of a text are those of its characters. -/
theorem toList_toUTF8 (s : String) : s.toUTF8.toList = encode s.toList := by
  rw [String.toUTF8_eq_toByteArray, ← String.ofList_toList (s := s), String.toByteArray_ofList,
    ByteArray.toList, toList_loop_eq, String.toList_ofList]
  exact List.toList_data_toByteArray

/-- The bytes of a text are decoded to the text. -/
theorem decode?_encode (chars : List Char) :
    decode? (encode chars) = some (String.ofList chars) := by
  have hbytes : (⟨(encode chars).toArray⟩ : ByteArray) = (String.ofList chars).toByteArray := by
    rw [String.toByteArray_ofList]
    exact ByteArray.ext (List.data_toByteArray (l := encode chars)).symm
  rw [decode?, hbytes, String.fromUTF8?, dif_pos (String.ofList chars).isValidUTF8]
  rfl

/-- Bytes are decoded to a text if they are the bytes of it. -/
theorem decode?_eq_some_iff {bytes : List UInt8} {text : String} :
    decode? bytes = some text ↔ bytes = text.toUTF8.toList := by
  constructor
  · intro h
    rw [decode?, String.fromUTF8?] at h
    split at h
    case isTrue =>
      cases h
      change bytes = ByteArray.toList.loop ⟨bytes.toArray⟩ 0 []
      rw [toList_loop_eq]
      rfl
    case isFalse => cases h
  · rintro rfl
    rw [toList_toUTF8, decode?_encode, String.ofList_toList]

/-- A character below 128 is encoded by itself. -/
theorem utf8EncodeChar_of_lt {c : Char} (h : c.toNat < 128) :
    String.utf8EncodeChar c = [UInt8.ofNat c.toNat] :=
  if_pos (Nat.le_of_lt_succ h)

/-- Different characters below 128 are different bytes. -/
theorem ofNat_toNat_ne {c d : Char} (hc : c.toNat < 128) (hd : d.toNat < 128) (h : c ≠ d) :
    UInt8.ofNat c.toNat ≠ UInt8.ofNat d.toNat := by
  intro heq
  have hvalue := congrArg UInt8.toNat heq
  rw [UInt8.toNat_ofNat', UInt8.toNat_ofNat', Nat.mod_eq_of_lt (by omega),
    Nat.mod_eq_of_lt (by omega)] at hvalue
  exact h (Char.toNat_inj.mp hvalue)

/-- Any other character is encoded by other bytes than those. -/
theorem le_of_mem_utf8EncodeChar {c : Char} (h : 128 ≤ c.toNat) :
    ∀ byte ∈ String.utf8EncodeChar c, 128 ≤ byte := by
  have hlarge : ¬c.val.toNat ≤ 127 := Nat.not_le_of_lt h
  have hbyte : ∀ {n}, 128 ≤ n → n < 256 → (128 : UInt8) ≤ UInt8.ofNat n := fun {n} hlow hhigh => by
    rw [UInt8.le_iff_toNat_le, UInt8.toNat_ofNat', Nat.mod_eq_of_lt hhigh]
    exact hlow
  rw [String.utf8EncodeChar.eq_1, if_neg hlarge]
  split
  · simp only [List.mem_cons, List.not_mem_nil, or_false, forall_eq_or_imp, forall_eq]
    exact ⟨hbyte (by omega) (by omega), hbyte (by omega) (by omega)⟩
  split
  · simp only [List.mem_cons, List.not_mem_nil, or_false, forall_eq_or_imp, forall_eq]
    exact ⟨hbyte (by omega) (by omega), hbyte (by omega) (by omega), hbyte (by omega) (by omega)⟩
  · simp only [List.mem_cons, List.not_mem_nil, or_false, forall_eq_or_imp, forall_eq]
    exact ⟨hbyte (by omega) (by omega), hbyte (by omega) (by omega), hbyte (by omega) (by omega),
      hbyte (by omega) (by omega)⟩

/-- A byte below 128 occurs in the encoding of one character only. -/
theorem eq_of_mem_utf8EncodeChar {c d : Char} (hd : d.toNat < 128)
    (h : UInt8.ofNat d.toNat ∈ String.utf8EncodeChar c) : c = d := by
  by_cases hc : c.toNat < 128
  · rw [utf8EncodeChar_of_lt hc, List.mem_singleton] at h
    exact Classical.byContradiction fun hne => ofNat_toNat_ne hc hd hne h.symm
  · have hlarge := le_of_mem_utf8EncodeChar (Nat.le_of_not_lt hc) _ h
    rw [UInt8.le_iff_toNat_le, UInt8.toNat_ofNat', Nat.mod_eq_of_lt (by omega)] at hlarge
    exact absurd hd (Nat.not_lt.mpr hlarge)

/-- Encoded characters that are cut after the byte of a character below 128 are cut after this
character. -/
theorem exists_append_of_encode {d : Char} (hd : d.toNat < 128) {chars : List Char}
    {first second : List UInt8} (h : encode chars = first ++ second)
    (hlast : first.getLast? = some (UInt8.ofNat d.toNat)) :
    ∃ before after, chars = before ++ after ∧ before.getLast? = some d ∧
      encode before = first ∧ encode after = second := by
  induction chars generalizing first with
  | nil =>
    obtain ⟨rfl, -⟩ := List.append_eq_nil_iff.mp h.symm
    cases hlast
  | cons c chars ih =>
    rw [encode_cons, List.append_eq_append_iff] at h
    have hmem : UInt8.ofNat d.toNat ∈ first := List.mem_of_getLast? hlast
    rcases h with ⟨further, rfl, hchars⟩ | ⟨further, hc, rfl⟩
    · cases further with
      | nil =>
        rw [List.append_nil] at hmem
        obtain rfl : c = d := eq_of_mem_utf8EncodeChar hd hmem
        exact ⟨[c], chars, rfl, rfl, encode_cons c [], hchars⟩
      | cons byte further =>
        rw [List.getLast?_append, List.getLast?_cons, Option.some_or, ← List.getLast?_cons] at hlast
        obtain ⟨before, after, rfl, hbefore, hfirst, rfl⟩ := ih hchars hlast
        refine ⟨c :: before, after, rfl, ?_, ?_, rfl⟩
        · rw [List.getLast?_cons, hbefore]
          rfl
        · rw [encode_cons, hfirst]
    · -- The cut is in the encoding of the first character, which is a single byte.
      obtain rfl : c = d := eq_of_mem_utf8EncodeChar hd (hc ▸ List.mem_append_left _ hmem)
      rw [utf8EncodeChar_of_lt hd] at hc
      obtain ⟨rfl, -⟩ | ⟨rfl, rfl⟩ := List.singleton_eq_append_iff.mp hc
      · cases hmem
      · exact ⟨[c], chars, rfl, rfl, by simp [encode_cons, utf8EncodeChar_of_lt hd], rfl⟩

end DocQuery.Utf8
