import DocQuery.CommandLine.Command
import DocQuery.CommandLine.Input
import DocQuery.CommandLine.Lines
import DocQuery.Selector.Match
import DocQuery.Selector.Text
import DocQuery.View.Compile
import DocQuery.View.Where

/-!
# Running commands

What a command prints, given the bytes it reads. A failure to open a file counts only when the
command comes to read it.
-/

namespace DocQuery

namespace CommandLine

/-- Shows the lines whose values a selector accepts. -/
def select (selector : String) (source : Source) : Result := do
  let selector ← (Selector.parse selector.toUTF8.toList).mapError fun e => ⟨e.message, none⟩
  let entries ← decodeLines (← source)
  return (entries.filter fun entry => selector.isSatisfiedBy entry.2).map Prod.fst

/-- Shows lines in collation order of their values, equal ones in the order given. -/
def collate (source : Source) : Result := do
  let entries ← decodeLines (← source)
  let sorted := entries.mergeSort fun a b => (Collation.compareValue a.2 b.2).isLE
  return sorted.map Prod.fst

/-- The lines that show the conditions and the order of a query, and the values of the conditions
with their numbers. -/
def queryLines (q : ViewQuery) : List String :=
  let (predicates, values) := Sql.Restriction.bindAll q.rowRestrictions []
  let condition :=
    if predicates.isEmpty then "WHERE: (none)"
    else "WHERE " ++ " AND ".intercalate (predicates.map Sql.Predicate.text)
  let order := q.orderBy ["id"]
  condition :: (if order.isEmpty then [] else [order]) ++
    (values.zipIdx 1).map fun (value, n) => "  " ++ Sql.placeholderText n ++ " = " ++ value

/-- Shows the query of a view. -/
def view (name options : String) : Result := do
  let options ← (Options.decode options).mapError fun e =>
    ⟨"Options must be a JSON object", some e.message⟩
  let q ← (options.viewQuery name).mapError fun e => ⟨e.message, none⟩
  let level := if q.reduce = some true then ["Group level: " ++ toString q.reduceGroupLevel] else []
  return queryLines q ++ level

/-- The lines that show what a search adds to a query. -/
def searchLines (q : ViewQuery) (s : DocumentSearch) : List String :=
  let bookmark := q.bookmarkCondition
  (if bookmark.isEmpty then [] else ["Bookmark: " ++ bookmark]) ++
    ["Limit: " ++ toString s.limit ++ "  Skip: " ++ toString s.skip] ++
    if s.fields.isEmpty then [] else ["Fields: " ++ ", ".intercalate s.fields]

/-- Shows the query of a search for documents. -/
def find (body : String) : Result := do
  let body ← (Json.decodeText body).mapError fun e => ⟨"Query must be JSON", some e.message⟩
  let q ← (ViewQuery.ofSearch body).mapError fun e => ⟨e.message, none⟩
  return match q.search with
    | some s => ("Selector: " ++ s.selector.text) :: queryLines q ++ searchLines q s
    | none => queryLines q

end CommandLine

namespace Command

/-- Where a command reads. -/
def input : Command → CommandInput
  | .select _ (some name) => .file name
  | .collate (some name) => .file name
  | .select _ none => .standard
  | .collate none => .standard
  | .view .. => .nothing
  | .find _ => .nothing

/-- The result of a command that reads from a source. -/
def run (source : CommandLine.Source) : Command → CommandLine.Result
  | .select selector _ => CommandLine.select selector source
  | .collate _ => CommandLine.collate source
  | .view name options => CommandLine.view name options
  | .find body => CommandLine.find body

end Command

end DocQuery
