import DocQuery.CommandLine.Outcome

/-!
# Input of commands

Where a command reads, and why a file cannot be read. A file that cannot be opened is reported by
its name; a directory can be opened, and only reading it fails.
-/

namespace DocQuery

/-- Where a command reads: a file, the standard input, or nowhere. -/
inductive CommandInput where
  | file (name : String)
  | standard
  | nothing
  deriving DecidableEq, Repr

/-- Why a file cannot be read. -/
inductive FileError where
  /-- There is no file of this name. -/
  | missing
  /-- The file may not be opened. -/
  | forbidden
  /-- A file stands where a directory is needed. -/
  | notDirectory
  /-- A directory stands where a file is needed. -/
  | isDirectory
  /-- The name or a component of it is too long. -/
  | nameTooLong
  deriving DecidableEq, Repr

namespace FileError

/-- The number of an error. -/
def code : FileError → Nat
  | .missing => 2
  | .forbidden => 13
  | .notDirectory => 20
  | .isDirectory => 21
  | .nameTooLong => 36

/-- An error in words. -/
def description : FileError → String
  | .missing => "No such file or directory"
  | .forbidden => "Permission denied"
  | .notDirectory => "Not a directory"
  | .isDirectory => "Is a directory"
  | .nameTooLong => "File name too long"

/-- The error with a number. -/
def ofCode? (code : Nat) : Option FileError :=
  [missing, forbidden, notDirectory, isDirectory, nameTooLong].find? (·.code = code)

/-- An error with its number. -/
def message (e : FileError) : String :=
  e.description ++ " (os error " ++ toString e.code ++ ")"

/-- The failure of a command that cannot read a file. -/
def failure (name : String) (e : FileError) : CommandLine.Failure :=
  if e = isDirectory then ⟨e.message, none⟩ else ⟨"Failed to open " ++ name, some e.message⟩

end FileError

namespace CommandLine

/-- Bytes to read, or why they cannot be read. -/
abbrev Source := Except Failure (List UInt8)

end CommandLine

end DocQuery
