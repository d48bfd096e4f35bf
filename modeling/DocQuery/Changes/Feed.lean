/-!
# Feeds of changes

How changes are delivered, which revisions they list, where they start, and which of them pass.
-/

namespace DocQuery

/-- How changes are delivered. -/
inductive Feed where
  | normal
  | longpoll
  | continuous
  deriving DecidableEq, Repr

/-- The name of a feed. -/
def Feed.name : Feed → String
  | .normal => "normal"
  | .longpoll => "longpoll"
  | .continuous => "continuous"

/-- Which revisions a change lists. -/
inductive RevisionStyle where
  /-- The winning revision. -/
  | mainOnly
  /-- All revisions without successors. -/
  | allDocs
  deriving DecidableEq, Repr

/-- The name of a style. -/
def RevisionStyle.name : RevisionStyle → String
  | .mainOnly => "main_only"
  | .allDocs => "all_docs"

/-- Where changes start. -/
inductive Since where
  /-- After the request. -/
  | now
  /-- After a sequence number. -/
  | sequence (number : Nat)
  deriving DecidableEq, Repr

/-- Which changes pass. -/
inductive ChangesFilter where
  /-- Those of listed documents. -/
  | docIds
  /-- Those that a filter function of a design document accepts. -/
  | function (designDoc name : String)
  /-- Those that the view of a design document has rows for. -/
  | view (designDoc name : String)
  deriving DecidableEq, Repr

/-- The name of a kind of filter. -/
def ChangesFilter.kind : ChangesFilter → String
  | .docIds => "_doc_ids"
  | .function .. => "filter"
  | .view .. => "map"

end DocQuery
