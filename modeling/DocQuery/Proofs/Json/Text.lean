import DocQuery.Json.Text
import DocQuery.Proofs.Json.Induction
import DocQuery.Proofs.Number.Spelling

/-!
# Values are determined by their text

The compact text of a value cannot be continued to that of another value, as long as what follows
cannot belong to a number. The first character tells the kind of the value; a string ends at its
first quote that is not escaped, an array or object where no comma follows an item or member.
-/

namespace DocQuery.Json

/-- The value of a lower-case hexadecimal digit. -/
def hexValue (c : Char) : Nat := if c.isDigit then c.toNat - 48 else c.toNat - 87

private theorem hexValue_hexDigit : ∀ n < 16, hexValue (hexDigit n) = n := by decide

/-- The character that is written by a letter after a backslash. -/
def unmark : Char → Char
  | 'n' => '\n'
  | 'r' => '\r'
  | 't' => '\t'
  | 'b' => '\x08'
  | 'f' => '\x0c'
  | c => c

/-- Takes one character, escaped where it has to be, off the inside of a string. -/
def unescape : List Char → Option (Char × List Char)
  | '"' :: _ => none
  | '\\' :: 'u' :: '0' :: '0' :: high :: low :: rest =>
    some (Char.ofNat (16 * hexValue high + hexValue low), rest)
  | '\\' :: mark :: rest => some (unmark mark, rest)
  | c :: rest => some (c, rest)
  | [] => none

/-- A character that needs no escape stands for itself. -/
theorem unescape_plain {c : Char} (hquote : c ≠ '"') (hbackslash : c ≠ '\\') (rest : List Char) :
    unescape (c :: rest) = some (c, rest) := by
  unfold unescape
  split
  case h_1 heq => cases heq; exact absurd rfl hquote
  case h_2 heq => cases heq; exact absurd rfl hbackslash
  case h_3 heq => cases heq; exact absurd rfl hbackslash
  case h_4 heq => cases heq; rfl
  case h_5 heq => cases heq

/-- Escaping a character is undone, whatever follows. -/
theorem unescape_escape (c : Char) (rest : List Char) :
    unescape (escape c ++ rest) = some (c, rest) := by
  unfold escape
  split_ifs with hquote hbackslash hplain hn hr ht hb hf
  case pos => subst hquote; rfl
  case pos => subst hbackslash; rfl
  case pos => exact unescape_plain hquote hbackslash rest
  case pos => subst hn; rfl
  case pos => subst hr; rfl
  case pos => subst ht; rfl
  case pos => subst hb; rfl
  case pos => subst hf; rfl
  case neg =>
    have hcontrol : c.toNat < 32 := Nat.lt_of_not_le hplain
    have hcode : 16 * hexValue (hexDigit (c.toNat / 16)) + hexValue (hexDigit (c.toNat % 16)) =
        c.toNat := by
      rw [hexValue_hexDigit _ (by omega), hexValue_hexDigit _ (by omega), Nat.div_add_mod]
    simp only [List.cons_append, List.nil_append, unescape, hcode, Char.ofNat_toNat]

/-- The quote ends a string. -/
theorem unescape_quote (rest : List Char) : unescape ('"' :: rest) = none := rfl

/-- What is written for the characters of a string gives back its first character. -/
theorem unescape_inside (c : Char) (chars rest : List Char) :
    unescape ((c :: chars).flatMap escape ++ rest) = some (c, chars.flatMap escape ++ rest) := by
  rw [List.flatMap_cons, List.append_assoc, unescape_escape]

/-- The inside of a string ends at its first quote that is not escaped. -/
theorem inside_append_inj {as bs r r' : List Char}
    (h : as.flatMap escape ++ '"' :: r = bs.flatMap escape ++ '"' :: r') : as = bs ∧ r = r' := by
  induction as generalizing bs with
  | nil =>
    cases bs with
    | nil => exact ⟨rfl, (List.cons.inj h).2⟩
    | cons b bs =>
      cases (unescape_quote r).symm.trans ((congrArg unescape h).trans (unescape_inside b bs _))
  | cons a as ih =>
    cases bs with
    | nil =>
      cases (unescape_inside a as _).symm.trans ((congrArg unescape h).trans (unescape_quote r'))
    | cons b bs =>
      have hstep := congrArg unescape h
      rw [unescape_inside, unescape_inside] at hstep
      obtain ⟨rfl, htail⟩ := Prod.mk.inj (Option.some.inj hstep)
      obtain ⟨rfl, hr⟩ := ih htail
      exact ⟨rfl, hr⟩

/-- A string is known from its text, whatever follows. -/
theorem quoteChars_append_inj {s t : String} {r r' : List Char}
    (h : quoteChars s ++ r = quoteChars t ++ r') : s = t ∧ r = r' := by
  simp only [quoteChars, List.cons_append, List.append_assoc, List.nil_append] at h
  obtain ⟨hchars, hr⟩ := inside_append_inj (List.cons.inj h).2
  exact ⟨String.toList_injective hchars, hr⟩

/-- What may follow a value: nothing, or a character that belongs to no number. -/
def Ends (rest : List Char) : Prop := ∀ c ∈ rest.head?, isNumeralChar c = false

private theorem ends_cons {c : Char} (h : isNumeralChar c = false) (rest : List Char) :
    Ends (c :: rest) := by
  rintro _ ⟨⟩
  exact h

section Separated

variable {α : Type} {piece : α → List Char} {close : Char}

/-- The pieces for the elements of a list with commas between them. -/
def separated (piece : α → List Char) : List α → List Char
  | [] => []
  | a :: rest => piece a ++ rest.flatMap fun b => ',' :: piece b

/-- The piece for an element cannot be continued to that of another one. -/
def Determined (piece : α → List Char) (a : α) : Prop :=
  ∀ {b r r'}, Ends r → Ends r' → piece a ++ r = piece b ++ r' → a = b ∧ r = r'

/-- After an element there is a comma or the closing character. -/
theorem ends_rest (hclose : isNumeralChar close = false) (as : List α) (r : List Char) :
    Ends ((as.flatMap fun b => ',' :: piece b) ++ close :: r) := by
  cases as with
  | nil => exact ends_cons hclose r
  | cons a as => exact ends_cons rfl _

/-- The pieces after the first are known from their text up to the closing character. -/
theorem rest_append_inj (hclose : isNumeralChar close = false) (hcomma : close ≠ ',') {as : List α}
    (h : ∀ a ∈ as, Determined piece a) {bs : List α} {r r' : List Char}
    (heq : (as.flatMap fun b => ',' :: piece b) ++ close :: r =
      (bs.flatMap fun b => ',' :: piece b) ++ close :: r') : as = bs ∧ r = r' := by
  induction as generalizing bs with
  | nil =>
    cases bs with
    | nil => exact ⟨rfl, (List.cons.inj heq).2⟩
    | cons b bs => exact absurd (List.cons.inj heq).1 hcomma
  | cons a as ih =>
    cases bs with
    | nil => exact absurd (List.cons.inj heq).1.symm hcomma
    | cons b bs =>
      simp only [List.flatMap_cons, List.cons_append, List.append_assoc] at heq
      obtain ⟨rfl, hrest⟩ := h a List.mem_cons_self (ends_rest hclose as r)
        (ends_rest hclose bs r') (List.cons.inj heq).2
      obtain ⟨rfl, hr⟩ := ih (fun b hb => h b (List.mem_cons_of_mem a hb)) hrest
      exact ⟨rfl, hr⟩

/-- A list in brackets is determined if its elements are, and none of them starts with the closing
bracket. -/
theorem separated_append_inj (hclose : isNumeralChar close = false) (hcomma : close ≠ ',')
    (hlead : ∀ a, ∃ c rest, piece a = c :: rest ∧ c ≠ close) {as : List α}
    (h : ∀ a ∈ as, Determined piece a) {bs : List α} {r r' : List Char}
    (heq : separated piece as ++ close :: r = separated piece bs ++ close :: r') :
    as = bs ∧ r = r' := by
  have hne : ∀ a rest rest', piece a ++ rest ≠ close :: rest' := fun a rest rest' ha => by
    obtain ⟨c, tail, hc, hclose⟩ := hlead a
    rw [hc] at ha
    exact hclose (List.cons.inj ha).1
  match as, bs with
  | [], [] => exact ⟨rfl, (List.cons.inj heq).2⟩
  | [], b :: bs => exact absurd ((List.append_assoc ..).symm.trans heq.symm) (hne b _ _)
  | a :: as, [] => exact absurd ((List.append_assoc ..).symm.trans heq) (hne a _ _)
  | a :: as, b :: bs => exact rest_append_inj hclose hcomma h (congrArg (',' :: ·) heq)

end Separated

/-- Items are written with commas between them. -/
theorem itemChars_eq (items : List Json) : itemChars items = separated chars items := by
  induction items with
  | nil => rfl
  | cons item rest ih =>
    cases rest with
    | nil => simp [itemChars, separated]
    | cons next rest => simp [itemChars, separated, ih]

/-- The text of a member of an object. -/
def memberText (entry : String × Json) : List Char := quoteChars entry.1 ++ ':' :: entry.2.chars

/-- Members are written with commas between them. -/
theorem memberChars_eq (members : List (String × Json)) :
    memberChars members = separated memberText members := by
  induction members with
  | nil => rfl
  | cons entry rest ih =>
    cases rest with
    | nil => simp [memberChars, separated, memberText]
    | cons next rest => simp [memberChars, separated, memberText, ih]

/-- The kind of the values that start with a character. -/
def leadKind? : Char → Option Kind
  | 'n' => some .null
  | 't' => some .boolean
  | 'f' => some .boolean
  | '"' => some .string
  | '[' => some .array
  | '\x7b' => some .object
  | c => if isNumeralChar c then some .number else none

/-- Only numbers begin with a character of numerals. -/
theorem leadKind?_of_isNumeralChar {c : Char} (h : isNumeralChar c = true) :
    leadKind? c = some .number := by
  unfold leadKind?
  split
  case h_7 => exact if_pos h
  all_goals exact absurd h (by decide)

/-- The first character tells the kind of a value. -/
theorem exists_lead (value : Json) :
    ∃ c rest, value.chars = c :: rest ∧ leadKind? c = some value.kind := by
  cases value with
  | null => exact ⟨_, _, rfl, rfl⟩
  | bool b => cases b <;> exact ⟨_, _, rfl, rfl⟩
  | num n =>
    obtain ⟨c, rest, h⟩ := List.exists_cons_of_ne_nil n.text_ne_nil
    exact ⟨c, rest, h, leadKind?_of_isNumeralChar
      (n.isNumeralChar_of_mem_text c (h ▸ List.mem_cons_self))⟩
  | str s => exact ⟨_, _, rfl, rfl⟩
  | arr items => exact ⟨_, _, rfl, rfl⟩
  | obj members => exact ⟨_, _, rfl, rfl⟩

/-- The kind of a value is known from its text, whatever follows. -/
theorem kind_eq_of_append_eq {v w : Json} {r r' : List Char} (h : v.chars ++ r = w.chars ++ r') :
    v.kind = w.kind := by
  obtain ⟨c, rest, hv, hc⟩ := exists_lead v
  obtain ⟨d, rest', hw, hd⟩ := exists_lead w
  rw [hv, hw] at h
  rw [← Option.some_inj, ← hc, ← hd, (List.cons.inj h).1]

/-- The text of a number ends where no character of a number follows. -/
theorem num_append_inj {m n : Number} {r r' : List Char} (hr : Ends r) (hr' : Ends r')
    (h : m.text.toList ++ r = n.text.toList ++ r') : m = n ∧ r = r' := by
  have htake : ∀ (n : Number) {r : List Char}, Ends r →
      (n.text.toList ++ r).takeWhile isNumeralChar = n.text.toList := fun n _ hr =>
    takeWhile_append_of_head? n.isNumeralChar_of_mem_text hr
  have htext : m.text.toList = n.text.toList := by rw [← htake m hr, h, htake n hr']
  rw [htext] at h
  exact ⟨Number.text_injective (String.toList_injective htext), List.append_cancel_left h⟩

/-- A member is known from its text if its value is. -/
theorem determined_member {entry : String × Json} (h : Determined chars entry.2) :
    Determined memberText entry := by
  rintro ⟨key, value⟩ r r' hr hr' heq
  simp only [memberText, List.append_assoc, List.cons_append] at heq
  obtain ⟨hkey, hrest⟩ := quoteChars_append_inj heq
  obtain ⟨hvalue, hr⟩ := h hr hr' (List.cons.inj hrest).2
  exact ⟨Prod.ext hkey hvalue, hr⟩

/-- The text of a value cannot be continued to that of another value. -/
theorem determined (value : Json) : Determined chars value := by
  induction value using inductionOn with
  | null =>
    intro w r r' hr hr' h
    cases w <;> cases kind_eq_of_append_eq h
    exact ⟨rfl, List.append_cancel_left h⟩
  | bool a =>
    intro w r r' hr hr' h
    cases w <;> cases kind_eq_of_append_eq h
    case bool b =>
      obtain rfl : a = b := by
        cases a <;> cases b <;> first | rfl | exact absurd (List.cons.inj h).1 (by decide)
      exact ⟨rfl, List.append_cancel_left h⟩
  | num n =>
    intro w r r' hr hr' h
    cases w <;> cases kind_eq_of_append_eq h
    obtain ⟨rfl, hr⟩ := num_append_inj hr hr' h
    exact ⟨rfl, hr⟩
  | str s =>
    intro w r r' hr hr' h
    cases w <;> cases kind_eq_of_append_eq h
    obtain ⟨rfl, hr⟩ := quoteChars_append_inj h
    exact ⟨rfl, hr⟩
  | arr items ih =>
    intro w r r' hr hr' h
    cases w <;> cases kind_eq_of_append_eq h
    simp only [chars, itemChars_eq, List.cons_append, List.append_assoc, List.nil_append] at h
    obtain ⟨rfl, hr⟩ := separated_append_inj rfl (by decide) (fun item => by
      obtain ⟨c, rest, hc, hkind⟩ := exists_lead item
      exact ⟨c, rest, hc, by rintro rfl; cases hkind⟩) ih (List.cons.inj h).2
    exact ⟨rfl, hr⟩
  | obj members ih =>
    intro w r r' hr hr' h
    cases w <;> cases kind_eq_of_append_eq h
    simp only [chars, memberChars_eq, List.cons_append, List.append_assoc, List.nil_append] at h
    obtain ⟨rfl, hr⟩ := separated_append_inj rfl (by decide)
      (fun entry => ⟨'"', _, rfl, by decide⟩)
      (fun entry hentry => determined_member (ih entry hentry)) (List.cons.inj h).2
    exact ⟨rfl, hr⟩

/-- The compact text of a value determines it. -/
theorem text_injective : Function.Injective text := by
  intro v w h
  have hchars : v.chars = w.chars := String.ofList_injective h
  have hends : Ends [] := nofun
  exact (determined v hends hends (congrArg (· ++ []) hchars)).1

end DocQuery.Json
