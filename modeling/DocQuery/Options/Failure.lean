import DocQuery.Options.Param
import DocQuery.Selector.Parse

/-!
# Why options are refused

Options are malformed, if a value cannot be read, or inconsistent, if the values that are read do
not go together.
-/

namespace DocQuery

/-- Why an option cannot be read. -/
inductive Malformed where
  /-- The options are not an object. -/
  | notObject (found : Json.Kind)
  /-- The text of the options is not an object. -/
  | undecodable (error : Json.DecodeError)
  /-- A value is of no use for its option. -/
  | value (option : String) (param : Param)
  /-- The text of a key is not JSON. -/
  | key (option : String) (error : Json.DecodeError)
  /-- The text of a list of keys is not an array. -/
  | keysText (error : Json.DecodeError)
  /-- A list of keys is not an array. -/
  | keysValue (cause : Json.Mismatch)
  /-- An item of a list of strings is not a string. -/
  | item (option : String) (found : Json)
  /-- A sequence number is none. -/
  | sequence (param : Param)
  /-- There is no feed of this name. -/
  | feed
  /-- A filter by a view comes without the view. -/
  | missingView
  /-- A filter by documents comes without them. -/
  | missingDocIds
  /-- The name of a filter has no slash. -/
  | filterName (option : String)
  /-- A query has no selector. -/
  | missingSelector
  /-- The selector of a query is not well formed. -/
  | selector (error : Selector.ParseError)

/-- The message of a malformed option. -/
def Malformed.message : Malformed → String
  | .notObject found => "invalid type: " ++ found.name ++ ", expected an options object"
  | .undecodable error => error.message
  | .value option param => "invalid value for '" ++ option ++ "': " ++ param.text
  | .key option error => "invalid value for '" ++ option ++ "': " ++ error.message ++ " in key"
  | .keysText error => "invalid value for 'keys': " ++ error.message
  | .keysValue cause => "invalid value for 'keys': " ++ cause.message
  | .item option found => "invalid '" ++ option ++ "' field: " ++ found.text
  | .sequence param => "malformed sequence supplied in 'since' parameter: " ++ param.text
  | .feed => "supported `feed` types: normal, longpoll, continuous"
  | .missingView => "filter=_view requires 'view' parameter"
  | .missingDocIds => "filter=_doc_ids requires 'doc_ids' parameter"
  | .filterName option => "'" ++ option ++ "' must be of the form 'designname/filtername'"
  | .missingSelector => "selector cannot be null"
  | .selector error => error.message

/-- Why options do not go together. -/
inductive Inconsistent where
  /-- A view without rows to reduce has a group level. -/
  | groupLevel
  /-- A view without rows to reduce is grouped. -/
  | group
  /-- There is no index for an order of documents. -/
  | sort
  /-- A list of keys comes with another restriction of the key. -/
  | keys
  /-- The start key lies beyond the end key; the other direction helps. -/
  | range (descending : Bool)
  /-- The key lies outside the start key and the end key. -/
  | keyOutside
  /-- The key lies before the start key; the other direction helps. -/
  | keyBeforeStart (descending : Bool)
  /-- The key lies after the end key; the other direction helps. -/
  | keyAfterEnd (descending : Bool)
  deriving DecidableEq, Repr

/-- The text of a boolean. -/
def boolText (value : Bool) : String := if value then "true" else "false"

/-- The message of options that do not go together. -/
def Inconsistent.message : Inconsistent → String
  | .groupLevel => "group_level is invalid for map-only views"
  | .group => "group is invalid for map-only views"
  | .sort => "no index exists for this sort, try indexing by the sort fields"
  | .keys => "`keys` is incompatible with `key`, `start_key` and `end_key`"
  | .range descending =>
    emptyRange ++ "reverse your start_key and end_key or set descending=" ++ boolText descending
  | .keyOutside => emptyRange ++ "change your start_key, end_key, or key"
  | .keyBeforeStart descending =>
    emptyRange ++ "change your start_key or key or set descending=" ++ boolText descending
  | .keyAfterEnd descending =>
    emptyRange ++ "reverse your end_key or key or set descending=" ++ boolText descending
where
  /-- How the messages of empty key ranges begin. -/
  emptyRange : String := "no rows can match your key range, "

/-- Why options are refused. -/
inductive OptionError where
  | malformed (cause : Malformed)
  | inconsistent (cause : Inconsistent)

/-- The message of an error. -/
def OptionError.message : OptionError → String
  | .malformed cause => cause.message
  | .inconsistent cause => cause.message

end DocQuery
