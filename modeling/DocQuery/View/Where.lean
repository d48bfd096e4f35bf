import DocQuery.Sql.Restriction
import DocQuery.View.Query

/-!
# Queries in SQL

The restrictions that the rows of a view, grouped rows and reduced rows have to satisfy for a
query, and the order of the rows.
-/

namespace DocQuery

open Sql (Column Restriction)

namespace Paging

/-- How the start key bounds the rows. -/
def startComparison (p : Paging) : Comparison := if p.descending then .lte else .gte

/-- How the end key bounds the rows. -/
def endComparison (p : Paging) : Comparison :=
  match p.descending, p.inclusiveEnd with
  | true, true => .gte
  | true, false => .gt
  | false, true => .lte
  | false, false => .lt

/-- The restrictions of the range of keys, by the columns that the two ends bound. -/
def rangeRestrictions (p : Paging) (startColumn endColumn : Column) : List Restriction :=
  (p.startKey.map fun key => .compare [startColumn] p.startComparison key).toList ++
    (p.endKey.map fun key => .compare [endColumn] p.endComparison key).toList

/-- The restrictions of the rows of a view to the range of keys. -/
def restrictions (p : Paging) : List Restriction := p.rangeRestrictions .key .key

end Paging

namespace ViewQuery

/-- The restriction of the rows of a built-in view to its documents. -/
def documentRestrictions (q : ViewQuery) : List Restriction :=
  if q.view = ViewName.allDocs then [.like .key true "\"_local/%"]
  else if q.view = ViewName.localDocs then [.like .key false "\"_local/%"]
  else if q.view = ViewName.designDocs then [.like .key false "\"_design/%"]
  else []

/-- The restrictions of rows to the documents where the range of keys starts and ends. A document
counts only together with the key. -/
def docIdRestrictions (q : ViewQuery) : List Restriction :=
  let bound (key docId : Option String) (comparison : Comparison) : List Restriction :=
    match key, docId with
    | some _, some docId => [.compare [.docId] comparison docId]
    | _, _ => []
  bound q.paging.startKey q.startKeyDocId q.paging.startComparison ++
    bound q.paging.endKey q.endKeyDocId q.paging.endComparison

/-- The restrictions of rows to the key and the keys. -/
def keyRestrictions (q : ViewQuery) : List Restriction :=
  (q.key.map fun key => .compare [.key] .eq key).toList ++
    if q.keys.isEmpty then [] else [.oneOf .key q.keys]

/-- The restrictions of the rows of the view. -/
def rowRestrictions (q : ViewQuery) : List Restriction :=
  q.documentRestrictions ++ q.paging.restrictions ++ q.docIdRestrictions ++ q.keyRestrictions

/-- The restrictions of grouped rows. -/
def groupRestrictions (q : ViewQuery) : List Restriction :=
  q.paging.restrictions ++ q.keyRestrictions

/-- The restrictions of reduced rows, which cover keys from a first to a last one. -/
def reducedRestrictions (q : ViewQuery) : List Restriction :=
  q.paging.rangeRestrictions .firstKey .lastKey ++
    (q.key.toList ++ q.keys).map fun key => .compare [.lastKey, .firstKey] .eq key

/-- The order of rows by key and then by further columns, empty if rows are not ordered. -/
def orderBy (q : ViewQuery) (columns : List String) : String :=
  if !q.sorted then ""
  else
    let direction := if q.paging.descending then " DESC" else " ASC"
    "ORDER BY " ++
      ", ".intercalate (("key" :: columns).map fun column => "view." ++ column ++ direction)

/-- The condition that a search goes on after its bookmark, empty if there is none. -/
def bookmarkCondition (q : ViewQuery) : String :=
  if (q.search.bind (·.bookmark)).isSome then
    "WHERE main.doc_number > (SELECT doc_number FROM bookmark)"
  else ""

end ViewQuery

end DocQuery
