import DocQuery.Collation.Key
import DocQuery.Options.Failure

/-!
# Paging

Which rows of a view are asked for: a range of keys in the direction of iteration, and how many
rows are skipped and returned. Keys are JSON texts in collation order.
-/

namespace DocQuery

/-- A range of keys and a number of rows. -/
structure Paging where
  /-- The number of rows returned; a negative number is no limit. -/
  limit : Int
  /-- The number of rows skipped. -/
  skip : Int
  /-- Whether rows are read in decreasing order. -/
  descending : Bool
  /-- The key where rows start. -/
  startKey : Option String
  /-- The key where rows end. -/
  endKey : Option String
  /-- Whether rows with the end key are included. -/
  inclusiveEnd : Bool
  deriving DecidableEq, Repr

namespace Paging

/-- All rows. -/
def everything : Paging := ⟨-1, 0, false, none, none, true⟩

/-- The order of two keys in the direction of iteration. -/
def compareKey (p : Paging) (a b : String) : Ordering :=
  let order := Collation.compareKey a b
  if p.descending then order.swap else order

/-- Checks that the start key is not beyond the end key. -/
def validate (p : Paging) : Except OptionError Unit :=
  match p.startKey, p.endKey with
  | some first, some last =>
    if p.compareKey first last = .gt then .error (.inconsistent (.range !p.descending))
    else .ok ()
  | _, _ => .ok ()

end Paging

end DocQuery
