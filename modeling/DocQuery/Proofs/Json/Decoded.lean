import DocQuery.Json.Decode
import DocQuery.Proofs.Json.Induction
import DocQuery.Proofs.Steps

/-!
# Decoded values

What the decoder reads is well formed and not nested too deep: the members of an object are
collected into a map, and the values inside are read by the decoder again, one level less deep.
-/

namespace DocQuery.Json

open Cursor

/-- A refusal is no result. -/
@[simp] theorem Cursor.fail_ne_ok {α : Type} (c : Cursor) (cause : SyntaxCause) (a : α) :
    c.fail cause ≠ .ok a := nofun

/-- A refusal for the next byte is no result. -/
@[simp] theorem Cursor.failNext_ne_ok {α : Type} (c : Cursor) (cause : SyntaxCause) (a : α) :
    c.failNext cause ≠ .ok a := nofun

/-- A reader of values gives such with a property only. -/
def ReadsOnly (P : Json → Prop) (read : Cursor → Decoding (Json × Cursor)) : Prop :=
  ∀ {c value after}, read c = .ok (value, after) → P value

variable {P : Json → Prop} {read : Cursor → Decoding (Json × Cursor)}

private theorem forall_of_readItems (hread : ReadsOnly P read) {fuel : Nat} {first : Bool}
    {c after : Cursor} {items : List Json}
    (h : readItems read fuel first c = .ok (items, after)) : ∀ item ∈ items, P item := by
  induction fuel generalizing first c items with
  | zero => exact absurd h (fail_ne_ok _ _ _)
  | succ fuel ih =>
    simp only [readItems] at h
    split at h
    · cases h
      exact fun _ hmem => absurd hmem List.not_mem_nil
    split at h
    · exact absurd h (fail_ne_ok _ _ _)
    split at h
    · exact absurd h (failNext_ne_ok _ _ _)
    -- Where the item starts depends on a comma before it, which does not matter from here on.
    generalize (if first = true then c.skipBlanks else c.skipBlanks.advance.skipBlanks) = start at h
    split at h
    · exact absurd h (failNext_ne_ok _ _ _)
    obtain ⟨⟨item, c'⟩, hitem, h⟩ := bind_eq_ok_iff.mp h
    obtain ⟨⟨rest, c''⟩, hrest, h⟩ := bind_eq_ok_iff.mp h
    cases h
    exact List.forall_mem_cons.mpr ⟨hread hitem, ih hrest⟩

private theorem forall_of_readMembers (hread : ReadsOnly P read) {fuel : Nat} {first : Bool}
    {c after : Cursor} {members : List (String × Json)}
    (h : readMembers read fuel first c = .ok (members, after)) :
    ∀ entry ∈ members, P entry.2 := by
  induction fuel generalizing first c members with
  | zero => exact absurd h (fail_ne_ok _ _ _)
  | succ fuel ih =>
    simp only [readMembers] at h
    split at h
    · cases h
      exact fun _ hmem => absurd hmem List.not_mem_nil
    split at h
    · exact absurd h (fail_ne_ok _ _ _)
    split at h
    · exact absurd h (failNext_ne_ok _ _ _)
    generalize (if first = true then c.skipBlanks else c.skipBlanks.advance.skipBlanks) = start at h
    split at h
    · obtain ⟨⟨key, c₁⟩, -, h⟩ := bind_eq_ok_iff.mp h
      obtain ⟨c₂, -, h⟩ := bind_eq_ok_iff.mp h
      obtain ⟨⟨value, c₃⟩, hvalue, h⟩ := bind_eq_ok_iff.mp h
      obtain ⟨⟨rest, c₄⟩, hrest, h⟩ := bind_eq_ok_iff.mp h
      cases h
      exact List.forall_mem_cons.mpr ⟨hread hvalue, ih hrest⟩
    split at h
    · exact absurd h (fail_ne_ok _ _ _)
    split at h
    · exact absurd h (failNext_ne_ok _ _ _)
    · exact absurd h (failNext_ne_ok _ _ _)

/-- What opens neither an array nor an object is neither of them. -/
private theorem kind_of_readScalar {c after : Cursor} {byte : UInt8} {value : Json}
    (h : c.readScalar byte = .ok (value, after)) : value.kind ≠ .array ∧ value.kind ≠ .object := by
  unfold readScalar at h
  repeat' split at h
  all_goals
    first
    | exact absurd h (failNext_ne_ok _ _ _)
    | obtain ⟨_, -, h⟩ := bind_eq_ok_iff.mp h
      cases h
      exact ⟨nofun, nofun⟩

/-- What is read at a depth has a property for this depth, if scalars have it for any, and arrays
and objects inherit it from what is inside. -/
private theorem readsOnly_readValue {P : Nat → Json → Prop}
    (scalar : ∀ depth value, value.kind ≠ .array → value.kind ≠ .object → P depth value)
    (arr : ∀ depth items, (∀ item ∈ items, P depth item) → P (depth + 1) (.arr items))
    (obj : ∀ depth members, Entries.Sorted members → (∀ entry ∈ members, P depth entry.2) →
      P (depth + 1) (.obj members)) (depth : Nat) : ReadsOnly (P depth) (readValue depth) := by
  induction depth with
  | zero =>
    intro c value after h
    simp only [readValue] at h
    split at h
    · exact absurd h (fail_ne_ok _ _ _)
    split at h
    · exact absurd h (failNext_ne_ok _ _ _)
    · obtain ⟨harray, hobject⟩ := kind_of_readScalar h
      exact scalar _ _ harray hobject
  | succ depth ih =>
    intro c value after h
    simp only [readValue] at h
    split at h
    · exact absurd h (fail_ne_ok _ _ _)
    split at h
    · unfold readNested at h
      split at h
      · obtain ⟨⟨items, c'⟩, hitems, h⟩ := bind_eq_ok_iff.mp h
        cases h
        exact arr _ _ (forall_of_readItems ih hitems)
      · obtain ⟨⟨members, c'⟩, hmembers, h⟩ := bind_eq_ok_iff.mp h
        cases h
        exact obj _ _ (Entries.sorted_ofList members) fun entry hmem =>
          forall_of_readMembers ih hmembers entry (Entries.mem_of_mem_ofList hmem)
    · obtain ⟨harray, hobject⟩ := kind_of_readScalar h
      exact scalar _ _ harray hobject

/-- A result is accepted if nothing but blanks follows what is read. -/
theorem Cursor.finish_eq_ok_iff {α : Type} {reading : Decoding (α × Cursor)} {a : α} :
    reading >>= finish = .ok a ↔
      ∃ after, reading = .ok (a, after) ∧ after.skipBlanks.peek = none := by
  have hfinish (b : α) (after : Cursor) :
      finish (b, after) = .ok a ↔ b = a ∧ after.skipBlanks.peek = none := by
    unfold finish
    cases h : after.skipBlanks.peek <;> simp [h]
  rw [bind_eq_ok_iff]
  constructor
  · rintro ⟨⟨b, after⟩, hread, haccept⟩
    obtain ⟨rfl, hend⟩ := (hfinish b after).mp haccept
    exact ⟨after, hread, hend⟩
  · rintro ⟨after, hread, hend⟩
    exact ⟨(a, after), hread, (hfinish a after).mpr ⟨rfl, hend⟩⟩

/-- Decoded values are well formed. -/
theorem wellFormed_of_decode {bytes : List UInt8} {value : Json}
    (h : decode bytes = .ok value) : value.WellFormed := by
  obtain ⟨after, hread, -⟩ := finish_eq_ok_iff.mp h
  refine readsOnly_readValue (P := fun _ value => value.WellFormed)
    (fun _ value harray hobject => ?_) (fun _ items => (wellFormed_arr items).mpr)
    (fun _ members hsorted hvalues => (wellFormed_obj members).mpr ⟨hsorted, hvalues⟩)
    maxDepth hread
  cases value with
  | arr items => exact absurd rfl harray
  | obj members => exact absurd rfl hobject
  | _ => trivial

/-- Decoded values are not nested too deep. -/
theorem depth_le_of_decode {bytes : List UInt8} {value : Json}
    (h : decode bytes = .ok value) : value.depth ≤ maxDepth := by
  obtain ⟨after, hread, -⟩ := finish_eq_ok_iff.mp h
  refine readsOnly_readValue (P := fun depth value => value.depth ≤ depth)
    (fun _ value harray hobject => ?_) (fun _ _ => depth_arr_le_iff.mpr)
    (fun _ _ _ => depth_obj_le_iff.mpr) maxDepth hread
  cases value with
  | arr items => exact absurd rfl harray
  | obj members => exact absurd rfl hobject
  | _ => exact Nat.zero_le _

/-- A value of another shape is refused. -/
theorem refuseShape_ne_ok {α : Type} (c : Cursor) (expected : Shape) (a : α) :
    refuseShape c expected ≠ .ok a := by
  unfold refuseShape
  intro h
  split at h
  · exact fail_ne_ok _ _ _ h
  split at h
  · cases h
  split at h
  · cases h
  · obtain ⟨_, -, h⟩ := bind_eq_ok_iff.mp h
    cases h

/-- An array at the cursor is read as one. -/
private theorem readNested_eq_arr_iff {c after : Cursor} {byte : UInt8} {items : List Json} :
    readNested read c byte = .ok (.arr items, after) ↔
      byte = 91 ∧ readItems read c.rest.length true c.advance = .ok (items, after) := by
  unfold readNested
  split
  · next hbyte =>
    rw [bind_eq_ok_iff, and_iff_right hbyte]
    constructor
    · rintro ⟨⟨items', c'⟩, hitems, h⟩
      cases h
      exact hitems
    · intro hitems
      exact ⟨_, hitems, rfl⟩
  · next hbyte =>
    refine ⟨fun h => ?_, fun h => absurd h.1 hbyte⟩
    obtain ⟨_, -, h⟩ := bind_eq_ok_iff.mp h
    cases h

/-- A value is an array exactly if it opens as one and its items are read. -/
private theorem readValue_eq_arr_iff {depth : Nat} {c after : Cursor} {items : List Json} :
    readValue (depth + 1) c = .ok (.arr items, after) ↔
      c.skipBlanks.peek = some 91 ∧ readItems (readValue depth) c.skipBlanks.rest.length true
        c.skipBlanks.advance = .ok (items, after) := by
  rw [readValue]
  cases c.skipBlanks.peek with
  | none => simp
  | some byte =>
    dsimp only
    split
    · rw [readNested_eq_arr_iff, Option.some_inj]
    · next hopens =>
      refine ⟨fun h => absurd rfl (kind_of_readScalar h).1, fun h => ?_⟩
      cases h.1
      exact absurd rfl hopens

/-- A text has items to be read exactly if it decodes to the array of them. -/
theorem decodeArray_eq_ok_iff {text : String} {items : List Json} :
    decodeArray text = .ok items ↔ decodeText text = .ok (.arr items) := by
  have hsees (c : Cursor) : c.sees [91] = true ↔ c.peek = some 91 := by
    cases h : c.peek <;> simp [sees, h]
  rw [decodeText, decode, decodeFirst, finish_eq_ok_iff, maxDepth]
  simp only [readValue_eq_arr_iff]
  unfold decodeArray
  dsimp only
  split
  · next hopens =>
    rw [finish_eq_ok_iff]
    simp only [(hsees _).mp hopens, true_and]
    rfl
  · next hopens =>
    refine ⟨fun h => absurd h (refuseShape_ne_ok _ _ _), ?_⟩
    rintro ⟨_, ⟨hpeek, -⟩, -⟩
    exact absurd ((hsees _).mpr hpeek) hopens

end DocQuery.Json
