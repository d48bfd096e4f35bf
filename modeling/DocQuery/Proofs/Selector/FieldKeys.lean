import DocQuery.Selector.FieldPath

/-!
# Keys of field names

A field name is read by a grammar that accepts every text. Its keys are those of a scan from left to
right, and any keys but none at all are those of some field name: the one that has them with a
backslash before each of their backslashes and dots, and with dots between them.
-/

namespace DocQuery.FieldPath

/-- The keys of a text, where the first one goes on from what was read of it so far. -/
def scanKeys (soFar : String) : List Char → List String
  | [] => [soFar]
  | ['\\'] => [soFar.push '\\']
  | '\\' :: c :: rest => scanKeys (soFar.push c) rest
  | '.' :: rest => soFar :: scanKeys "" rest
  | c :: rest => scanKeys (soFar.push c) rest

/-- A character that is neither a backslash nor a dot is added to the key. -/
theorem scanKeys_plain {c : Char} (hbackslash : c ≠ '\\') (hdot : c ≠ '.') (soFar : String)
    (rest : List Char) : scanKeys soFar (c :: rest) = scanKeys (soFar.push c) rest := by
  rw [scanKeys]
  all_goals simp [hbackslash, hdot]

/-- A character that is neither a backslash nor a dot stands for itself. -/
theorem keyChar_read_plain {c : Char} (hbackslash : c ≠ '\\') (hdot : c ≠ '.')
    (rest : List Char) : keyChar.read (c :: rest) = some (c, rest) := by
  simp [keyChar, Reader.firstOf, Reader.after, Reader.char, Reader.anyChar, Reader.noneOf,
    Reader.charIf, hbackslash, hdot]

/-- From any beginning of a key, the grammar reads on as the scan does, to the end of the text. -/
theorem read_eq_scanKeys (soFar : String) (input : List Char) :
    ∃ first rest further, Reader.foldFrom keyChar String.push soFar input = some (first, rest) ∧
      Reader.furtherFrom (.char '.') key rest = some (further, []) ∧
      scanKeys soFar input = first :: further := by
  have hend : keyChar.read [] = none := rfl
  have hnone : Reader.furtherFrom (.char '.') key [] = some ([], []) :=
    Reader.furtherFrom_of_refused rfl
  fun_induction scanKeys soFar input with
  | case1 soFar => exact ⟨soFar, [], [], Reader.foldFrom_of_refused hend _ _, hnone, rfl⟩
  | case2 soFar =>
    -- A backslash with nothing after it is refused by the first alternative only.
    have hread : keyChar.read ['\\'] = some ('\\', []) := rfl
    refine ⟨soFar.push '\\', [], [], ?_, hnone, rfl⟩
    rw [Reader.foldFrom_of_read hread (Nat.lt_succ_self _), Reader.foldFrom_of_refused hend]
  | case3 soFar c rest ih =>
    have hread : keyChar.read ('\\' :: c :: rest) = some (c, rest) := rfl
    rwa [Reader.foldFrom_of_read hread (Nat.lt_add_of_pos_right Nat.two_pos)]
  | case4 soFar rest ih =>
    obtain ⟨first, next, further, hfirst, hfurther, hscan⟩ := ih
    have hdot : (Reader.char '.').read ('.' :: rest) = some ('.', rest) := rfl
    refine ⟨soFar, '.' :: rest, first :: further, Reader.foldFrom_of_refused rfl _ _, ?_, ?_⟩
    · exact Reader.furtherFrom_of_read hdot (Nat.lt_succ_self _) hfirst hfurther
    · rw [hscan]
  | case5 soFar c rest hlast hescape hdot ih =>
    have hbackslash : c ≠ '\\' := by
      rintro rfl
      cases rest with
      | nil => exact hlast rfl rfl
      | cons next rest => exact hescape next rest rfl rfl
    rwa [Reader.foldFrom_of_read (keyChar_read_plain hbackslash hdot rest) (Nat.lt_succ_self _)]

/-- The grammar reads every text to its end. -/
theorem keyList_read (input : List Char) : keyList.read input = some (scanKeys "" input, []) := by
  obtain ⟨first, rest, further, hfirst, hfurther, hscan⟩ := read_eq_scanKeys "" input
  rw [keyList, Reader.separated_read hfirst hfurther, hscan]

/-- The reader of keys takes all of every text and reads what a scan of the text finds. -/
theorem keyList_readAll (input : List Char) :
    keyList.readAll input = some (scanKeys "" input) := by
  rw [Reader.readAll, keyList_read]

/-- The keys of a name are those that a scan of its characters finds. -/
theorem splitKeys_eq_scanKeys (name : String) : splitKeys name = scanKeys "" name.toList := by
  rw [splitKeys, keyList_readAll, Option.getD_some]

/-- Every name has a key, though this may be empty. -/
theorem splitKeys_ne_nil (name : String) : splitKeys name ≠ [] := by
  obtain ⟨first, rest, further, -, -, hscan⟩ := read_eq_scanKeys "" name.toList
  rw [splitKeys_eq_scanKeys, hscan]
  exact List.cons_ne_nil _ _

/-- A character with a backslash before it if it is a backslash or a dot. -/
def escapeChar (c : Char) : List Char := if c = '\\' ∨ c = '.' then ['\\', c] else [c]

/-- A key with a backslash before each backslash and each dot. -/
def escapeKey (key : String) : String := String.ofList (key.toList.flatMap escapeChar)

/-- A field name that addresses the given keys. -/
def joinKeys (keys : List String) : String := ".".intercalate (keys.map escapeKey)

/-- An escaped character is read as the character. -/
theorem scanKeys_escapeChar_append (soFar : String) (c : Char) (rest : List Char) :
    scanKeys soFar (escapeChar c ++ rest) = scanKeys (soFar.push c) rest := by
  by_cases h : c = '\\' ∨ c = '.'
  · rw [escapeChar, if_pos h]
    rfl
  · obtain ⟨hbackslash, hdot⟩ := not_or.mp h
    rw [escapeChar, if_neg h]
    exact scanKeys_plain hbackslash hdot soFar rest

/-- Escaped characters are read as the characters. -/
theorem scanKeys_flatMap_append (soFar : String) (cs rest : List Char) :
    scanKeys soFar (cs.flatMap escapeChar ++ rest) = scanKeys (soFar ++ String.ofList cs) rest := by
  induction cs generalizing soFar with
  | nil => simp
  | cons c cs ih =>
    have hkey : soFar.push c ++ String.ofList cs = soFar ++ String.ofList (c :: cs) := by
      simp [← String.toList_inj]
    rw [List.flatMap_cons, List.append_assoc, scanKeys_escapeChar_append, ih, hkey]

/-- An escaped key is read as the key. -/
theorem scanKeys_escapeKey_append (key : String) (rest : List Char) :
    scanKeys "" ((escapeKey key).toList ++ rest) = scanKeys key rest := by
  rw [escapeKey, String.toList_ofList, scanKeys_flatMap_append, String.ofList_toList,
    String.empty_append]

private theorem toList_joinKeys_cons_cons (key next : String) (keys : List String) :
    (joinKeys (key :: next :: keys)).toList =
      (escapeKey key).toList ++ '.' :: (joinKeys (next :: keys)).toList := by
  simp [joinKeys, String.toList_intercalate]

/-- Joined keys are scanned as the same keys. -/
theorem scanKeys_joinKeys (key : String) (keys : List String) :
    scanKeys "" (joinKeys (key :: keys)).toList = key :: keys := by
  induction keys generalizing key with
  | nil => simpa [joinKeys, scanKeys] using scanKeys_escapeKey_append key []
  | cons next keys ih =>
    rw [toList_joinKeys_cons_cons, scanKeys_escapeKey_append, scanKeys, ih]

/-- Every field name is read to its end, as the keys of the scan, of which there is at least one.
Keys that are escaped and joined with dots are read back. -/
theorem field_names_decoded :
    (∀ name : String, keyList.read name.toList = some (splitKeys name, []) ∧
      keyList.readAll name.toList = some (splitKeys name) ∧
      splitKeys name = scanKeys "" name.toList ∧ splitKeys name ≠ []) ∧
    ∀ keys : List String, keys ≠ [] → splitKeys (joinKeys keys) = keys := by
  constructor
  · intro name
    have hkeys := splitKeys_eq_scanKeys name
    refine ⟨?_, ?_, hkeys, splitKeys_ne_nil name⟩
    · rw [keyList_read, hkeys]
    · rw [keyList_readAll, hkeys]
  · intro keys hne
    obtain ⟨key, keys, rfl⟩ := List.exists_cons_of_ne_nil hne
    rw [splitKeys_eq_scanKeys, scanKeys_joinKeys]

/-- Dots, backslashes and nothing at all can stand in a key. A backslash at the end of a name is a
part of the last key. -/
theorem field_names_decoded_backslashes :
    splitKeys "a\\.b..\\\\" = ["a.b", "", "\\"] ∧
      keyList.read "a.\\".toList = some (["a", "\\"], []) := by
  obtain ⟨hnames, hjoined⟩ := field_names_decoded
  obtain ⟨hread, -, hscan, -⟩ := hnames "a.\\"
  have hname : joinKeys ["a.b", "", "\\"] = "a\\.b..\\\\" := by decide
  refine ⟨hname ▸ hjoined _ (List.cons_ne_nil _ _), ?_⟩
  rw [hread, hscan]
  rfl

end DocQuery.FieldPath
