import DocQuery.Options.Document
import DocQuery.Options.View
import DocQuery.View.Query

/-!
# Queries from options

A query of a view is put together from options, or from the body of a search for documents. The
first option that cannot be read is the one reported, in the order in which they are read here.
-/

namespace DocQuery

namespace Options

/-- The range of keys and the number of rows asked for, which may contradict each other. -/
def paging (o : Options) : Except OptionError Paging := do
  let limit ← o.limit
  let skip ← o.skip
  let descending ← o.descending
  let startKey ← o.startKey
  let endKey ← o.endKey
  let inclusiveEnd ← o.inclusiveEnd
  return ⟨limit, skip, descending, startKey, endKey, inclusiveEnd⟩

/-- The query of a view. -/
def viewQuery (o : Options) (view : String) : Except OptionError ViewQuery := do
  let paging ← o.paging
  let reduce ← o.reduce
  let group ← o.group
  let groupLevel ← o.groupLevel
  if ViewName.isBuiltin view then
    if 0 < groupLevel then throw (.inconsistent .groupLevel)
    if group then throw (.inconsistent .group)
  let includeDocs ← o.includeDocs
  let conflicts ← o.conflicts
  let attachments ← o.attachments
  let update ← o.update
  let updateSeq ← o.updateSeq
  let endKeyDocId ← o.endKeyDocId
  let startKeyDocId ← o.startKeyDocId
  let key ← o.key
  let keys ← o.keys
  let sorted ← o.sorted
  let attEncodingInfo ← o.attEncodingInfo
  let query : ViewQuery := {
    paging, view, includeDocs, conflicts, reduce, group, groupLevel, attachments, update,
    updateSeq, endKeyDocId, startKeyDocId, key, keys, sorted, attEncodingInfo, search := none }
  query.validate
  return query

end Options

namespace ViewQuery

/-- The query that the body of a search for documents stands for. A bookmark takes the place of
the number of documents skipped. -/
def ofSearch (body : Json) : Except OptionError ViewQuery := do
  let options ← Options.ofJson body
  let selector ← match body.member "selector" with
    | .null => throw (.malformed .missingSelector)
    | value => (Selector.ofJson value).mapError fun e => .malformed (.selector e)
  let limit ← options.limit
  let skip ← options.skip
  let fields ← options.fields
  let conflicts ← options.conflicts
  let bookmark ← options.bookmark
  let skip := if bookmark.isSome then 0 else skip
  let sort ← options.sort
  if !sort.isEmpty then throw (.inconsistent .sort)
  let query : ViewQuery := {
    ofView ViewName.allDocs with
    includeDocs := true, conflicts,
    search := some { selector, limit, skip, fields, bookmark, sort } }
  query.validate
  return query

end ViewQuery

end DocQuery
