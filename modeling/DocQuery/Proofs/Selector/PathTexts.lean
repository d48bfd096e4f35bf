import DocQuery.Proofs.Selector.FieldKeys

/-!
# Path texts of fields

The path text of a field can be read in one way only, as the keys of the field: each key stands
between quotes, and a quote that belongs to a key comes after a backslash, so that no key ends early
and no key adds another one.
-/

namespace DocQuery.FieldPath

/-- Which characters a text between quotes stands for. A backslash stands for the character after
it, and a quote may only come after a backslash. -/
inductive StandsFor : List Char → List Char → Prop
  | nothing : StandsFor [] []
  | plain {c : Char} {body chars : List Char} (hquote : c ≠ '"') (hbackslash : c ≠ '\\')
      (hbody : StandsFor body chars) : StandsFor (c :: body) (c :: chars)
  | escaped {c : Char} {body chars : List Char} (hbody : StandsFor body chars) :
      StandsFor ('\\' :: c :: body) (c :: chars)

/-- Which keys a text gives one after the other, each by a dot and a text between quotes. -/
inductive GivesKeys : List Char → List String → Prop
  | nothing : GivesKeys [] []
  | key {body rest : List Char} {key : String} {keys : List String}
      (hbody : StandsFor body key.toList) (hrest : GivesKeys rest keys) :
      GivesKeys ('.' :: '"' :: (body ++ '"' :: rest)) (key :: keys)

/-- Whether a text is a dollar sign and then gives keys. -/
def IsPathText (text : String) (keys : List String) : Prop :=
  ∃ rest, text.toList = '$' :: rest ∧ GivesKeys rest keys

/-- The number of quotes that do not come after a backslash, unless another backslash takes that
one. -/
def unescapedQuotes : List Char → Nat
  | [] => 0
  | '\\' :: _ :: rest => unescapedQuotes rest
  | '"' :: rest => unescapedQuotes rest + 1
  | _ :: rest => unescapedQuotes rest

/-- A character that is neither a quote nor a backslash is not counted. -/
theorem unescapedQuotes_plain {c : Char} (hquote : c ≠ '"') (hbackslash : c ≠ '\\')
    (rest : List Char) : unescapedQuotes (c :: rest) = unescapedQuotes rest := by
  rw [unescapedQuotes]
  all_goals simp [hquote, hbackslash]

/-- The first unescaped quote ends a text between quotes, whatever comes after it. -/
theorem StandsFor.eq_of_append_eq {body body' chars chars' rest rest' : List Char}
    (h : StandsFor body chars) (h' : StandsFor body' chars')
    (heq : body ++ '"' :: rest = body' ++ '"' :: rest') : chars = chars' ∧ rest = rest' := by
  induction h generalizing body' chars' with
  | nothing =>
    cases h' with
    | nothing => exact ⟨rfl, List.tail_eq_of_cons_eq heq⟩
    | plain hquote => exact absurd (List.head_eq_of_cons_eq heq).symm hquote
    | escaped => exact absurd (List.head_eq_of_cons_eq heq) (by decide)
  | plain hquote hbackslash hbody ih =>
    cases h' with
    | nothing => exact absurd (List.head_eq_of_cons_eq heq) hquote
    | plain _ _ hbody' =>
      obtain ⟨rfl, htail⟩ := List.cons_eq_cons.mp heq
      obtain ⟨rfl, hrest⟩ := ih hbody' htail
      exact ⟨rfl, hrest⟩
    | escaped => exact absurd (List.head_eq_of_cons_eq heq) hbackslash
  | escaped hbody ih =>
    cases h' with
    | nothing => exact absurd (List.head_eq_of_cons_eq heq) (by decide)
    | plain _ hbackslash => exact absurd (List.head_eq_of_cons_eq heq).symm hbackslash
    | escaped hbody' =>
      obtain ⟨rfl, htail⟩ := List.cons_eq_cons.mp (List.tail_eq_of_cons_eq heq)
      obtain ⟨rfl, hrest⟩ := ih hbody' htail
      exact ⟨rfl, hrest⟩

/-- A text gives the same keys however it is read. -/
theorem GivesKeys.unique {text : List Char} {keys keys' : List String} (h : GivesKeys text keys)
    (h' : GivesKeys text keys') : keys = keys' := by
  induction h generalizing keys' with
  | nothing =>
    cases h'
    rfl
  | @key body rest key keys hbody hrest ih =>
    -- The other reading is of a text that begins with a dot, so it gives a key too.
    generalize htext : '.' :: '"' :: (body ++ '"' :: rest) = text at h'
    cases h' with
    | nothing => cases htext
    | key hbody' hrest' =>
      have heq := List.tail_eq_of_cons_eq (List.tail_eq_of_cons_eq htext)
      obtain ⟨hkey, rfl⟩ := hbody.eq_of_append_eq hbody' heq
      rw [String.toList_injective hkey, ih hrest']

/-- No quote in a text between quotes is unescaped. -/
theorem StandsFor.unescapedQuotes_append {body chars : List Char} (h : StandsFor body chars)
    (rest : List Char) : unescapedQuotes (body ++ rest) = unescapedQuotes rest := by
  induction h with
  | nothing => rfl
  | plain hquote hbackslash _ ih =>
    rw [List.cons_append, unescapedQuotes_plain hquote hbackslash, ih]
  | escaped _ ih => rw [List.cons_append, List.cons_append, unescapedQuotes, ih]

/-- Two quotes are unescaped for each key, those around it. -/
theorem GivesKeys.unescapedQuotes_eq {text : List Char} {keys : List String}
    (h : GivesKeys text keys) : unescapedQuotes text = 2 * keys.length := by
  induction h with
  | nothing => rfl
  | key hbody _ ih =>
    rw [unescapedQuotes_plain (by decide) (by decide), unescapedQuotes,
      hbody.unescapedQuotes_append, unescapedQuotes, ih, List.length_cons, Nat.mul_succ]

/-- Characters are stood for when their quotes and backslashes are escaped. -/
theorem standsFor_flatMap (chars : List Char) :
    StandsFor (chars.flatMap fun c => if c = '"' ∨ c = '\\' then ['\\', c] else [c]) chars := by
  induction chars with
  | nil => exact .nothing
  | cons c chars ih =>
    rw [List.flatMap_cons]
    split
    case isTrue => exact .escaped ih
    case isFalse hplain =>
      obtain ⟨hquote, hbackslash⟩ := not_or.mp hplain
      exact .plain hquote hbackslash ih

/-- Quoted keys with a dot before each of them give the keys. -/
theorem givesKeys_flatMap (keys : List String) :
    GivesKeys (keys.flatMap fun key => '.' :: quoteKey key) keys := by
  induction keys with
  | nil => exact .nothing
  | cons key keys ih =>
    have hkey := GivesKeys.key (standsFor_flatMap key.toList) ih
    simpa [quoteKey] using hkey

/-- The path of a field gives the keys of the field. -/
theorem isPathText_toJsonPath (path : FieldPath) : IsPathText path.toJsonPath path.keys :=
  ⟨_, String.toList_ofList, givesKeys_flatMap path.keys⟩

/-- A path gives its keys in one way only. -/
theorem IsPathText.unique {text : String} {keys keys' : List String} (h : IsPathText text keys)
    (h' : IsPathText text keys') : keys = keys' := by
  obtain ⟨rest, htext, hkeys⟩ := h
  obtain ⟨rest', htext', hkeys'⟩ := h'
  obtain rfl : rest = rest' := List.tail_eq_of_cons_eq (htext.symm.trans htext')
  exact hkeys.unique hkeys'

/-- The path text of a field gives the keys of the field, of which there is at least one, and cannot
be read as any others. Its unescaped quotes are the two around each key. Two fields have the same
path text exactly if they have the same keys. -/
theorem path_texts_identify_keys :
    (∀ name : String, splitKeys name ≠ [] ∧
      (∀ keys, IsPathText (ofName name).toJsonPath keys ↔ keys = splitKeys name) ∧
      unescapedQuotes (ofName name).toJsonPath.toList = 2 * (splitKeys name).length) ∧
    ∀ name other : String,
      (ofName name).toJsonPath = (ofName other).toJsonPath ↔ splitKeys name = splitKeys other := by
  have hpath (name : String) : IsPathText (ofName name).toJsonPath (splitKeys name) :=
    isPathText_toJsonPath (ofName name)
  constructor
  · intro name
    refine ⟨splitKeys_ne_nil name, fun keys => ?_, ?_⟩
    · constructor
      · exact fun h => h.unique (hpath name)
      · rintro rfl
        exact hpath name
    · obtain ⟨rest, htext, hkeys⟩ := hpath name
      rw [htext, unescapedQuotes_plain (by decide) (by decide), hkeys.unescapedQuotes_eq]
  · intro name other
    constructor
    · intro heq
      exact (hpath name).unique (heq ▸ hpath other)
    · intro heq
      change String.ofList ('$' :: (splitKeys name).flatMap _) = _
      rw [heq]
      rfl

end DocQuery.FieldPath
