/-!
# Outcomes

What a command prints and the code it ends with. A failure is reported with its cause, and nothing
else is printed.
-/

namespace DocQuery.CommandLine

/-- Why a command fails. -/
structure Failure where
  message : String
  cause : Option String
  deriving DecidableEq, Repr

/-- The report of a failure. -/
def Failure.report (f : Failure) : String :=
  "Error: " ++ f.message ++ "\n" ++
    match f.cause with
    | some cause => "\nCaused by:\n    " ++ cause ++ "\n"
    | none => ""

/-- The result of a command: the lines it prints, or why it fails. -/
abbrev Result := Except Failure (List String)

/-- What a command leaves behind. -/
structure Outcome where
  code : UInt32
  output : String
  report : String
  deriving DecidableEq, Repr

/-- The outcome of a result. -/
def Outcome.ofResult : Result → Outcome
  | .ok lines => ⟨0, String.join (lines.map (· ++ "\n")), ""⟩
  | .error failure => ⟨1, "", failure.report⟩

/-- The outcome of arguments that ask for no command. -/
def Outcome.usage : Outcome :=
  ⟨2, "", "Usage: docquery [-v] match SELECTOR [-d FILE] | collate [-f FILE] | " ++
    "view NAME [OPTIONS] | find QUERY\n"⟩

end DocQuery.CommandLine
