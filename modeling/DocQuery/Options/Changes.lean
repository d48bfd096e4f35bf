import DocQuery.Changes.Feed
import DocQuery.Options.Basic
import DocQuery.Sql.Restriction

/-!
# Options of feeds of changes

How changes are delivered and which of them pass, and the restriction of a feed to documents.
-/

namespace DocQuery.Options

/-- How changes are delivered. A value that is not a string counts as absent. -/
def feed (o : Options) : Except OptionError Feed :=
  match (o.get? "feed").bind Param.string? with
  | none => .ok .normal
  | some "normal" => .ok .normal
  | some "longpoll" => .ok .longpoll
  | some "continuous" => .ok .continuous
  | some _ => .error (.malformed .feed)

/-- Which revisions a change lists. -/
def style (o : Options) : RevisionStyle :=
  if (o.get? "style").bind Param.string? = some "all_docs" then .allDocs else .mainOnly

/-- How long to wait for changes, in milliseconds. -/
def timeout (o : Options) : Except OptionError Nat := o.read "timeout" 0 (accept Param.unsigned?)

/-- Reads where changes start. -/
def readSince (param : Param) : Except OptionError Since :=
  if param.string? = some "now" then .ok .now
  else match param.unsigned? with
    | some number => .ok (.sequence number)
    | none => .error (.malformed (.sequence param))

/-- Where changes start. -/
def since (o : Options) : Except OptionError (Option Since) :=
  o.read "since" none fun _ param => some <$> readSince param

/-- The number of changes, zero for all of them; an option of zero stands for one. -/
def changesLimit (o : Options) : Except OptionError Nat :=
  o.read "limit" 0 (accept fun param => param.unsigned?.map (max 1))

/-- The design document and the name before and after the first slash. -/
def splitName (option spec : String) : Except OptionError (String × String) :=
  let chars := spec.toList
  let designDoc := chars.takeWhile (· != '/')
  if designDoc.length = chars.length then .error (.malformed (.filterName option))
  else
    .ok ("_design/" ++ String.ofList designDoc, String.ofList (chars.drop (designDoc.length + 1)))

/-- Reads which changes pass. A filter by a view is named by another option. -/
def readFilter (o : Options) (param : Param) : Except OptionError ChangesFilter := do
  let filter := param.string?.getD ""
  if filter = "_doc_ids" then return .docIds
  else if filter = "_view" then
    match o.get? "view" with
    | none => .error (.malformed .missingView)
    | some view => do
      let (designDoc, name) ← splitName "view" (view.string?.getD "")
      return .view designDoc name
  else do
    let (designDoc, name) ← splitName "filter" filter
    return .function designDoc name

/-- Which changes pass, all of them if there is no filter. -/
def changesFilter (o : Options) : Except OptionError (Option ChangesFilter) :=
  o.read "filter" none fun _ param => some <$> readFilter o param

/-- The documents that a feed is restricted to, if it is restricted to documents. -/
def changedDocIds (o : Options) : Except OptionError (Option (List String)) := do
  if (← o.changesFilter) = some .docIds then
    match o.get? "doc_ids" with
    | none => .error (.malformed .missingDocIds)
    | some param => some <$> readStrings "doc_ids" param
  else return none

/-- The condition that restricts a feed to documents, empty if it is not restricted. The documents
are added to the list of values. -/
def changesCondition (o : Options) : ExceptT OptionError (StateM (List String)) String := do
  match ← MonadExcept.ofExcept o.changedDocIds with
  | none => return ""
  | some ids =>
    let predicates ← modifyGet (Sql.Restriction.bindAll [.oneOf .changedId ids])
    return "WHERE " ++ " AND ".intercalate (predicates.map Sql.Predicate.text)

end DocQuery.Options
