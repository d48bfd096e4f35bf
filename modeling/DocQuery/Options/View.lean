import DocQuery.Options.Basic
import DocQuery.Text.Base64
import DocQuery.View.Query

/-!
# Options of views

Which rows of a view are asked for, how they are reduced, and the options of a search for
documents.
-/

namespace DocQuery.Options

/-- The key where rows start. -/
def startKey (o : Options) : Except OptionError (Option String) :=
  o.keyOption ["startkey", "start_key"]

/-- The key where rows end. -/
def endKey (o : Options) : Except OptionError (Option String) :=
  o.keyOption ["endkey", "end_key"]

/-- Whether rows with the end key are included. -/
def inclusiveEnd (o : Options) : Except OptionError Bool := o.boolean "inclusive_end" true

/-- Whether rows are read in decreasing order. -/
def descending (o : Options) : Except OptionError Bool := o.boolean "descending" false

/-- The number of rows returned; a negative number is no limit. -/
def limit (o : Options) : Except OptionError Int := o.read "limit" (-1) (accept Param.signed?)

/-- The number of rows skipped. -/
def skip (o : Options) : Except OptionError Int :=
  o.read "skip" 0 (accept fun param => param.signed?.filter (0 ≤ ·))

/-- The key of the rows. -/
def key (o : Options) : Except OptionError (Option String) := o.keyOption ["key"]

/-- Reads a list of keys, each as JSON text. -/
def readKeys : Param → Except OptionError (List String)
  | .decoded value =>
    match value.asItems with
    | .ok items => .ok (items.map Json.text)
    | .error cause => .error (.malformed (.keysValue cause))
  | .encoded text =>
    match Json.decodeArray text with
    | .ok items => .ok (items.map Json.text)
    | .error error => .error (.malformed (.keysText error))

/-- The keys of the rows. -/
def keys (o : Options) : Except OptionError (List String) := o.read "keys" [] fun _ => readKeys

/-- The document where rows with the start key start. -/
def startKeyDocId (o : Options) : Except OptionError (Option String) :=
  o.docId ["startkey_docid", "start_key_doc_id"]

/-- The document where rows with the end key end. -/
def endKeyDocId (o : Options) : Except OptionError (Option String) :=
  o.docId ["endkey_docid", "end_key_doc_id"]

/-- Whether rows are ordered. They are if a direction is given, whichever it is. -/
def sorted (o : Options) : Except OptionError Bool :=
  o.read "sorted" true fun name param =>
    return (← accept Param.boolean? name param) || o.contains "descending"

/-- Reads when an index is brought up to date. -/
def readUpdate : Param → Option UpdateMode
  | .decoded (.str "lazy") => some .after
  | param => param.boolean?.map fun value => if value then .before else .never

/-- When the index is brought up to date. -/
def update (o : Options) : Except OptionError UpdateMode :=
  o.read "update" .before (accept readUpdate)

/-- The number of items of a key that rows are grouped by. -/
def groupLevel (o : Options) : Except OptionError Nat :=
  o.read "group_level" 0 (accept Param.unsigned?)

/-- Whether rows are grouped, as a group level implies. -/
def group (o : Options) : Except OptionError Bool :=
  match o.groupLevel with
  | .ok (_ + 1) => .ok true
  | _ => o.boolean "group" false

/-- Whether rows are reduced, as grouping implies. -/
def reduce (o : Options) : Except OptionError (Option Bool) :=
  match o.group with
  | .ok true => .ok (some true)
  | _ => o.read "reduce" none fun name param => some <$> accept Param.boolean? name param

/-- The fields returned by a search. -/
def fields (o : Options) : Except OptionError (List String) := o.stringList "fields"

/-- The fields that a search is ordered by. -/
def sort (o : Options) : Except OptionError (List String) := o.stringList "sort"

/-- Reads a bookmark, which is written in Base64. An empty one is none. -/
def readBookmark (param : Param) : Option (Option String) :=
  (param.string?.bind Base64.decodeText).map fun s => if s.isEmpty then none else some s

/-- The bookmark of a search. -/
def bookmark (o : Options) : Except OptionError (Option String) :=
  o.read "bookmark" none (accept readBookmark)

end DocQuery.Options
