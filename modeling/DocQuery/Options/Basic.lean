import DocQuery.Options.Failure

/-!
# Options

The options of a request by their names, and how a single option is read. An option may have an
alias; the first spelling present is the one that counts, and errors name it.
-/

namespace DocQuery

/-- The options of a request. -/
abbrev Options := KeyMap Param

namespace Options

/-- The options that the members of a JSON object are. -/
def ofJson : Json → Except OptionError Options
  | .obj members => .ok (.ofList (members.map fun (key, value) => (key, .decoded value)))
  | other => .error (.malformed (.notObject other.kind))

/-- The options in the text of a JSON object. -/
def decode (text : String) : Json.Decoding Options :=
  return .ofList ((← Json.decodeObject text).entries.map fun (key, value) => (key, .decoded value))

/-- The first of several options that is present, with its name. -/
def first? (o : Options) (names : List String) : Option (String × Param) :=
  names.findSome? fun name => (o.get? name).map (name, ·)

/-- Refuses a value for an option. -/
def invalid {α : Type} (name : String) (param : Param) : Except OptionError α :=
  .error (.malformed (.value name param))

/-- Reads an option by one of its names, or gives the value for options not present. -/
def readFirst {α : Type} (o : Options) (names : List String) (absent : α)
    (read : String → Param → Except OptionError α) : Except OptionError α :=
  match o.first? names with
  | some (name, param) => read name param
  | none => .ok absent

/-- Reads an option, or gives the value for an option not present. -/
def read {α : Type} (o : Options) (name : String) (absent : α)
    (read : String → Param → Except OptionError α) : Except OptionError α :=
  o.readFirst [name] absent read

/-- Reads with a reader that may refuse the value. -/
def accept {α : Type} (reader : Param → Option α) (name : String) (param : Param) :
    Except OptionError α :=
  match reader param with
  | some value => .ok value
  | none => invalid name param

/-- A boolean option. -/
def boolean (o : Options) (name : String) (absent : Bool) : Except OptionError Bool :=
  o.read name absent (accept Param.boolean?)

/-- A boolean option whose other values count as absent. -/
def flag (o : Options) (name : String) (absent : Bool) : Bool :=
  ((o.get? name).bind Param.boolean?).getD absent

/-- Reads the items of an array of strings. -/
def strings (name : String) : List Json → Except OptionError (List String)
  | [] => .ok []
  | .str s :: rest => return s :: (← strings name rest)
  | item :: _ => .error (.malformed (.item name item))

/-- Reads an array of strings. -/
def readStrings (name : String) (param : Param) : Except OptionError (List String) :=
  match param.decode with
  | .ok (.arr items) => strings name items
  | _ => invalid name param

/-- An option that is an array of strings. -/
def stringList (o : Options) (name : String) : Except OptionError (List String) :=
  o.read name [] readStrings

/-- Reads a key as JSON text; a text has to decode and is kept as it is. -/
def readKey (name : String) : Param → Except OptionError String
  | .decoded value => .ok value.text
  | .encoded text =>
    match Json.decodeText text with
    | .ok _ => .ok text
    | .error error => .error (.malformed (.key name error))

/-- A key given by an option. -/
def keyOption (o : Options) (names : List String) : Except OptionError (Option String) :=
  o.readFirst names none fun name param => some <$> readKey name param

/-- The identifier of a document given by an option. -/
def docId (o : Options) (names : List String) : Except OptionError (Option String) :=
  o.readFirst names none fun name param => some <$> accept Param.string? name param

end Options

end DocQuery
