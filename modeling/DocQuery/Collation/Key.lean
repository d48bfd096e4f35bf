import DocQuery.Collation.Value
import DocQuery.Json.Decode

/-!
# Collation of encoded keys

Keys are compared as JSON texts. The empty text comes first, then the texts that decode, by the
values they stand for, then the others, by their bytes.
-/

namespace DocQuery.Collation

/-- Lexicographic order of bytes. -/
def compareBytes (a b : List UInt8) : Ordering :=
  List.compareLex (fun x y => compare x.toNat y.toNat) a b

/-- Collation order of two encoded keys. -/
def compareEncoded (a b : List UInt8) : Ordering :=
  if a = b then .eq
  else if a.isEmpty then .lt
  else if b.isEmpty then .gt
  else match (Json.decode a).toOption, (Json.decode b).toOption with
    | some x, some y => compareValue x y
    | some _, none => .lt
    | none, some _ => .gt
    | none, none => compareBytes a b

/-- Collation order of two keys given as text. -/
def compareKey (a b : String) : Ordering := compareEncoded a.toUTF8.toList b.toUTF8.toList

/-- A key is equal to itself, whether it decodes or not. -/
@[simp] theorem compareKey_self (key : String) : compareKey key key = .eq := if_pos rfl

/-- The keys in collation order, equal keys in the order given. -/
def sortKeys (keys : List String) : List String :=
  keys.mergeSort fun a b => (compareKey a b).isLE

end DocQuery.Collation
