/-!
# Commands

What the command line asks for. An option has a long name and a letter; its value follows as the
next argument, after an equals sign, or right after the letter. Two dashes alone end the options.
-/

namespace DocQuery

/-- A command. -/
inductive Command where
  /-- Shows the documents that a selector accepts, out of a file or the standard input. -/
  | select (selector : String) (file : Option String)
  /-- Shows values in collation order, out of a file or the standard input. -/
  | collate (file : Option String)
  /-- Shows the query of a view. -/
  | view (name options : String)
  /-- Shows the query of a search for documents. -/
  | find (body : String)
  deriving DecidableEq, Repr

namespace CommandLine

/-- An option with a value. -/
structure ValueOption where
  letter : Char
  long : String

/-- Arguments read so far. -/
structure Arguments where
  /-- Arguments that are not options, the last one first. -/
  positional : List String
  /-- The value of the option. -/
  value : Option String
  /-- Whether more is logged. -/
  verbose : Bool

namespace Arguments

/-- No arguments. -/
def none : Arguments := ⟨[], .none, false⟩

/-- Adds an argument that is not an option. -/
def push (a : Arguments) (arg : String) : Arguments :=
  { a with positional := arg :: a.positional }

/-- Sets the value, which is given at most once and not empty. -/
def setValue? (a : Arguments) (value : String) : Option Arguments :=
  if a.value.isSome || value.isEmpty then .none else some { a with value := some value }

/-- Sets that more is logged, which is said at most once. -/
def setVerbose? (a : Arguments) : Option Arguments :=
  if a.verbose then .none else some { a with verbose := true }

end Arguments

/-- Whether an argument is an option. -/
def isOption (arg : String) : Bool := arg.toList.head? = some '-' && arg != "-"

/-- What an argument is. -/
inductive Token where
  /-- An option without a value, or a group of them. -/
  | flags
  /-- An option whose value is the next argument. -/
  | valueNext
  /-- An option with its value. -/
  | value (value : String)
  /-- The end of the options. -/
  | endOfOptions
  /-- An argument that is not an option. -/
  | positional

/-- The token of letters after a dash, the flag of more logging being the only one without a
value. The first part tells whether that flag is among them. -/
def letterToken? (valued : Option ValueOption) : List Char → Option (Bool × Token)
  | [] => some (false, .flags)
  | c :: rest =>
    if valued.any (·.letter = c) then
      match rest with
      | [] => some (false, .valueNext)
      | '=' :: value => some (false, .value (String.ofList value))
      | value => some (false, .value (String.ofList value))
    else if c = 'v' then
      match letterToken? valued rest with
      | some (false, token) => some (true, token)
      | _ => none
    else none

/-- The token of an argument, if there is such an option. -/
def token? (valued : Option ValueOption) (arg : String) : Option (Bool × Token) :=
  if !isOption arg then some (false, .positional)
  else
    match arg.toList.drop 1 with
    | '-' :: long =>
      let name := long.takeWhile (· != '=')
      if long.isEmpty then some (false, .endOfOptions)
      else if long = "verbose".toList then some (true, .flags)
      else if valued.any fun o => o.long.toList = name then
        if name.length = long.length then some (false, .valueNext)
        else some (false, .value (String.ofList (long.drop (name.length + 1))))
      else none
    | letters => letterToken? valued letters

/-- Reads the arguments of a command; the first of them may be awaited as the value of an option. -/
def readFrom (valued : Option ValueOption) : Arguments → Bool → List String → Option Arguments
  | a, awaited, [] => if awaited then none else some a
  | a, true, value :: rest => do
    if isOption value then none else readFrom valued (← a.setValue? value) false rest
  | a, false, arg :: rest => do
    let (verbose, token) ← token? valued arg
    let a ← if verbose then a.setVerbose? else some a
    match token with
    | .flags => readFrom valued a false rest
    | .value value => readFrom valued (← a.setValue? value) false rest
    | .valueNext => readFrom valued a true rest
    | .endOfOptions => some (rest.foldl Arguments.push a)
    | .positional => readFrom valued (a.push arg) false rest

/-- Reads the arguments of a command. -/
def readArguments (valued : Option ValueOption) (args : List String) : Option Arguments :=
  readFrom valued .none false args

/-- The command with a name and arguments. -/
def command? (name : String) (args : List String) : Option Command := do
  match name with
  | "match" =>
    let a ← readArguments (some ⟨'d', "docs"⟩) args
    match a.positional with
    | [selector] => some (.select selector a.value)
    | _ => none
  | "collate" =>
    let a ← readArguments (some ⟨'f', "file"⟩) args
    match a.positional with
    | [] => some (.collate a.value)
    | _ => none
  | "view" =>
    let a ← readArguments none args
    match a.positional with
    | [view] => some (.view view "\x7b\x7d")
    | [options, view] => some (.view view options)
    | _ => none
  | "find" =>
    let a ← readArguments none args
    match a.positional with
    | [body] => some (.find body)
    | _ => none
  | _ => none

/-- The command that arguments ask for, if they ask for one. -/
def parse? : List String → Option Command
  | flag :: name :: args =>
    if flag = "-v" || flag = "--verbose" then command? name args else command? flag (name :: args)
  | [name] => command? name []
  | [] => none

end CommandLine

end DocQuery
