import DocQuery.Collation.Key
import DocQuery.Proofs.Collation.Value
import DocQuery.Proofs.Steps

/-!
# The order of encoded keys

A key that does not decode is ordered by its bytes, one that does by its value, and the empty key
comes first. Read as levels (which of the three a key is, its value, its bytes), this is a
lexicographic order, so it is a total preorder of all lists of bytes. The shortcut for identical
keys agrees with the levels because each of them is reflexive.
-/

namespace DocQuery.Collation

open Std

instance transCmp_byte : TransCmp fun x y : UInt8 => compare x.toNat y.toNat :=
  transCmp_comap compare UInt8.toNat

instance lawfulEqCmp_byte : LawfulEqCmp fun x y : UInt8 => compare x.toNat y.toNat where
  compare_self := ReflOrd.compare_self
  eq_of_compare h := UInt8.toNat_inj.mp (LawfulEqOrd.eq_of_compare h)

instance : TransCmp compareBytes :=
  inferInstanceAs <| TransCmp <| List.compareLex _

instance : LawfulEqCmp compareBytes :=
  inferInstanceAs <| LawfulEqCmp <| List.compareLex _

/-- What a key counts as in the order of keys. -/
inductive Reading where
  /-- The empty key. -/
  | empty
  /-- A key that decodes, by its value. -/
  | decoded (value : Json)
  /-- Any other key, by its bytes. -/
  | unreadable (bytes : List UInt8)

namespace Reading

/-- The reading of a key. -/
def ofBytes (key : List UInt8) : Reading :=
  if key.isEmpty then .empty
  else match (Json.decode key).toOption with
    | some value => .decoded value
    | none => .unreadable key

/-- The place of the three sorts of keys. -/
def rank : Reading → Nat
  | empty => 0
  | decoded _ => 1
  | unreadable _ => 2

/-- The value of a key that decodes; the same for all other keys. -/
def json : Reading → Json
  | decoded value => value
  | _ => .null

/-- The bytes of a key that does not decode; the same for all other keys. -/
def bytes : Reading → List UInt8
  | unreadable bytes => bytes
  | _ => []

/-- The order of readings, level by level. -/
def compare : Reading → Reading → Ordering :=
  compareLex (fun a b => Ord.compare a.rank b.rank)
    (compareLex (fun a b => compareValue a.json b.json) fun a b => compareBytes a.bytes b.bytes)

instance : TransCmp Reading.compare :=
  have := transCmp_comap (Ord.compare (α := Nat)) rank
  have := transCmp_comap compareValue json
  have := transCmp_comap compareBytes bytes
  inferInstanceAs <| TransCmp <| compareLex _ <| compareLex _ _

/-- The empty text does not decode. -/
theorem ne_nil_of_decode {key : List UInt8} {value : Json} (h : Json.decode key = .ok value) :
    key ≠ [] := by
  rintro rfl
  unfold Json.decode Json.decodeFirst Json.Cursor.readValue at h
  cases h

/-- A key that decodes has the class of its value. -/
theorem ofBytes_of_decode {key : List UInt8} {value : Json} (h : Json.decode key = .ok value) :
    ofBytes key = decoded value := by
  have hne : key.isEmpty = false := by simpa using ne_nil_of_decode h
  simp [ofBytes, hne, h, Except.toOption]

/-- A key that is not empty and does not decode is unreadable. -/
theorem ofBytes_of_undecodable {key : List UInt8} {error : Json.DecodeError} (hne : key ≠ [])
    (h : Json.decode key = .error error) : ofBytes key = unreadable key := by
  have hne : key.isEmpty = false := by simpa using hne
  simp [ofBytes, hne, h, Except.toOption]

end Reading

/-- Keys are ordered by their readings. -/
theorem compareEncoded_eq (a b : List UInt8) :
    compareEncoded a b = (Reading.ofBytes a).compare (Reading.ofBytes b) := by
  by_cases hab : a = b
  · rw [hab, compareEncoded, if_pos rfl]
    have hself : (Reading.ofBytes b).compare (Reading.ofBytes b) = .eq := ReflCmp.compare_self
    exact hself.symm
  · rw [compareEncoded, if_neg hab]
    unfold Reading.ofBytes
    cases ha : a.isEmpty <;> cases hb : b.isEmpty
    · -- Levels on which the two keys agree leave the decision to the next one.
      cases (Json.decode a).toOption with
      | none => cases (Json.decode b).toOption <;> rfl
      | some x =>
        cases (Json.decode b).toOption with
        | none => rfl
        | some y => exact Ordering.then_eq.symm
    · cases (Json.decode a).toOption <;> rfl
    · cases (Json.decode b).toOption <;> rfl
    · rw [List.isEmpty_iff] at ha hb
      exact absurd (ha.trans hb.symm) hab

/-- The order of keys is a total preorder. -/
instance : TransCmp compareEncoded := by
  have h := transCmp_comap Reading.compare Reading.ofBytes
  rwa [← funext₂ compareEncoded_eq] at h

/-- So is the order of keys given as text. -/
instance : TransCmp compareKey :=
  transCmp_comap compareEncoded fun key : String => key.toUTF8.toList

/-- Keys that decode are compared by their values. -/
theorem compareEncoded_of_decode {a b : List UInt8} {x y : Json} (hx : Json.decode a = .ok x)
    (hy : Json.decode b = .ok y) : compareEncoded a b = compareValue x y := by
  rw [compareEncoded_eq, Reading.ofBytes_of_decode hx, Reading.ofBytes_of_decode hy]
  exact Ordering.then_eq

/-- Among keys that do not decode, the empty one included, the bytes decide. -/
theorem compareEncoded_of_undecodable {a b : List UInt8} {e f : Json.DecodeError}
    (he : Json.decode a = .error e) (hf : Json.decode b = .error f) :
    compareEncoded a b = compareBytes a b := by
  rw [compareEncoded_eq]
  by_cases ha : a = [] <;> by_cases hb : b = []
  · rw [ha, hb]
    rfl
  · obtain ⟨byte, rest, rfl⟩ := List.exists_cons_of_ne_nil hb
    rw [ha, Reading.ofBytes_of_undecodable hb hf]
    rfl
  · obtain ⟨byte, rest, rfl⟩ := List.exists_cons_of_ne_nil ha
    rw [hb, Reading.ofBytes_of_undecodable ha he]
    rfl
  · rw [Reading.ofBytes_of_undecodable ha he, Reading.ofBytes_of_undecodable hb hf]
    rfl

/-- Collation is a total preorder of all lists of bytes, strict where a step is strict. Keys that
decode are ordered by their values, the empty key comes before all others, and keys that do not
decode come after those that do, in the order of their bytes; only identical ones are equal. -/
theorem compareEncoded_total_preorder :
    (∀ a b : List UInt8, compareEncoded b a = (compareEncoded a b).swap) ∧
    (∀ a b c : List UInt8, (compareEncoded a b).isLE → (compareEncoded b c).isLE →
      (compareEncoded a c).isLE ∧
        (compareEncoded a b = .lt ∨ compareEncoded b c = .lt → compareEncoded a c = .lt)) ∧
    (∀ (a b : List UInt8) (x y : Json), Json.decode a = .ok x → Json.decode b = .ok y →
      compareEncoded a b = compareValue x y) ∧
    (∀ a : List UInt8, a ≠ [] → compareEncoded [] a = .lt) ∧
    (∀ (a b : List UInt8) (x : Json) (e : Json.DecodeError), Json.decode a = .ok x →
      Json.decode b = .error e → b ≠ [] → compareEncoded a b = .lt) ∧
    (∀ (a b : List UInt8) (e f : Json.DecodeError), Json.decode a = .error e →
      Json.decode b = .error f →
      compareEncoded a b = compareBytes a b ∧ (compareEncoded a b = .eq ↔ a = b)) := by
  refine ⟨fun a b => OrientedCmp.eq_swap, fun a b c hab hbc => ⟨TransCmp.isLE_trans hab hbc, ?_⟩,
    fun a b x y hx hy => compareEncoded_of_decode hx hy, fun a ha => ?_,
    fun a b x e hx he hb => ?_, fun a b e f he hf => ?_⟩
  · rintro (hlt | hlt)
    · exact TransCmp.lt_of_lt_of_isLE hlt hbc
    · exact TransCmp.lt_of_isLE_of_lt hab hlt
  · rw [compareEncoded, if_neg (Ne.symm ha)]
    rfl
  · rw [compareEncoded_eq, Reading.ofBytes_of_decode hx, Reading.ofBytes_of_undecodable hb he]
    rfl
  · have hbytes := compareEncoded_of_undecodable he hf
    exact ⟨hbytes, by rw [hbytes, LawfulEqCmp.compare_eq_iff_eq]⟩

/-- Arrays nested too deeply come after an object although their bytes are less, and before a text
of greater bytes that does not decode either; so the object comes before that text. -/
theorem compareEncoded_object_of_nested :
    let nested := List.replicate (Json.maxDepth + 1) 91
    compareBytes nested [123, 125] = .lt ∧ compareEncoded [123, 125] nested = .lt ∧
      compareEncoded nested [111] = .lt ∧ compareEncoded [123, 125] [111] = .lt := by
  obtain ⟨-, htrans, -, -, habove, hbytes⟩ := compareEncoded_total_preorder
  obtain ⟨x, hobject⟩ : ∃ x, Json.decode [123, 125] = .ok x := exists_eq_ok (by decide +kernel)
  obtain ⟨e, hnested⟩ : ∃ e, Json.decode (List.replicate (Json.maxDepth + 1) 91) = .error e :=
    exists_eq_error (by decide +kernel)
  obtain ⟨f, hword⟩ : ∃ f, Json.decode [111] = .error f := exists_eq_error (by decide +kernel)
  have hfirst := habove _ _ _ _ hobject hnested (by decide)
  have hsecond : compareEncoded (List.replicate (Json.maxDepth + 1) 91) [111] = .lt := by
    rw [(hbytes _ _ _ _ hnested hword).1]
    rfl
  refine ⟨rfl, hfirst, hsecond, (htrans _ _ _ ?_ ?_).2 (.inl hfirst)⟩
  · rw [hfirst]
    rfl
  · rw [hsecond]
    rfl

end DocQuery.Collation
