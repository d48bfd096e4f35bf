import DocQuery.View.Paging

/-!
# Queries of a view

What a query asks of a view, and the check that its key, its keys and its range of keys do not
exclude each other. Three views are built in. They list documents of a kind and have nothing to
reduce.
-/

namespace DocQuery

namespace ViewName

/-- All documents but the local ones. -/
def allDocs : String := "_all_docs"

/-- The local documents. -/
def localDocs : String := "_local_docs"

/-- The design documents. -/
def designDocs : String := "_design_docs"

/-- Whether a view is built in. -/
def isBuiltin (name : String) : Bool := name == allDocs || name == localDocs || name == designDocs

end ViewName

/-- Whether an index is brought up to date for a query. -/
inductive UpdateMode where
  /-- Before the query. -/
  | before
  /-- Not at all. -/
  | never
  /-- After the query. -/
  | after
  deriving DecidableEq, Repr

/-- The name of a mode. -/
def UpdateMode.name : UpdateMode → String
  | .before => "true"
  | .never => "false"
  | .after => "lazy"

/-- What a search for documents adds to a query. -/
structure DocumentSearch where
  selector : Selector
  /-- The number of documents returned; a negative number is no limit. -/
  limit : Int
  /-- The number of documents skipped. -/
  skip : Int
  /-- The fields returned, all of them if there are none. -/
  fields : List String
  /-- The document after which the search goes on. -/
  bookmark : Option String
  /-- The fields that documents are ordered by. -/
  sort : List String

/-- A query of a view. -/
structure ViewQuery where
  paging : Paging
  view : String
  includeDocs : Bool
  conflicts : Bool
  /-- Whether rows are reduced; none leaves it to the view. -/
  reduce : Option Bool
  /-- Whether reduced rows are grouped by key. -/
  group : Bool
  /-- The number of items of a key that rows are grouped by; zero for the whole key. -/
  groupLevel : Nat
  attachments : Bool
  update : UpdateMode
  updateSeq : Bool
  endKeyDocId : Option String
  startKeyDocId : Option String
  key : Option String
  keys : List String
  sorted : Bool
  attEncodingInfo : Bool
  search : Option DocumentSearch

namespace ViewQuery

/-- The query of all rows of a view. -/
def ofView (view : String) : ViewQuery where
  paging := .everything
  view := view
  includeDocs := false
  conflicts := false
  reduce := none
  group := false
  groupLevel := 0
  attachments := false
  update := .before
  updateSeq := false
  endKeyDocId := none
  startKeyDocId := none
  key := none
  keys := []
  sorted := true
  attEncodingInfo := false
  search := none

/-- Checks that a key lies between the start key and the end key. -/
def validateKey (p : Paging) (key : String) : Except OptionError Unit :=
  let beforeStart := p.startKey.any fun first => p.compareKey key first = .lt
  let afterEnd := p.endKey.any fun last => p.compareKey key last = .gt
  if beforeStart && p.endKey.isSome || afterEnd && p.startKey.isSome then
    .error (.inconsistent .keyOutside)
  else if beforeStart then .error (.inconsistent (.keyBeforeStart !p.descending))
  else if afterEnd then .error (.inconsistent (.keyAfterEnd !p.descending))
  else .ok ()

/-- Checks that some row can satisfy the restrictions of the key. -/
def validate (q : ViewQuery) : Except OptionError Unit := do
  if !q.keys.isEmpty && (q.key.isSome || q.paging.startKey.isSome || q.paging.endKey.isSome) then
    throw (.inconsistent .keys)
  q.paging.validate
  match q.key with
  | some key => validateKey q.paging key
  | none => return ()

/-- How many items of a key reduced rows are grouped by: minus one for the whole key, zero for no
grouping. -/
def reduceGroupLevel (q : ViewQuery) : Int :=
  if q.group && q.groupLevel == 0 then -1 else clampSigned q.groupLevel

end ViewQuery

end DocQuery
