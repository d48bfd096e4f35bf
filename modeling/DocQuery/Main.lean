import DocQuery.CommandLine.Run

/-!
# The program

Reads what a command asks for, runs it, and prints what it leaves behind.
-/

namespace DocQuery

/-- The number of an error of the system, if it is one that files have. -/
def errorCode? : IO.Error → Option UInt32
  | .noFileOrDirectory _ code _ => some code
  | .permissionDenied _ code _ => some code
  | .inappropriateType _ code _ => some code
  | .invalidArgument _ code _ => some code
  | _ => none

/-- Why a file cannot be read. -/
def readFailure (name : String) (error : IO.Error) : CommandLine.Failure :=
  match (errorCode? error).bind fun code => FileError.ofCode? code.toNat with
  | some known => known.failure name
  | none => ⟨"Failed to open " ++ name, some (toString error)⟩

/-- Reads the standard input to its end. -/
partial def readAll (input : IO.FS.Stream) (read : ByteArray) : IO ByteArray := do
  let chunk ← input.read 65536
  if chunk.isEmpty then return read else readAll input (read ++ chunk)

/-- Reads what a command asks for. -/
def readSource : CommandInput → IO CommandLine.Source
  | .nothing => return .ok []
  | .standard => return .ok (← readAll (← IO.getStdin) .empty).toList
  | .file name => do
    try return .ok (← IO.FS.readBinFile name).toList
    catch error => return .error (readFailure name error)

end DocQuery

open DocQuery in
/-- Runs the command that the arguments ask for. -/
def main (args : List String) : IO UInt32 := do
  let outcome ← match CommandLine.parse? args with
    | none => pure CommandLine.Outcome.usage
    | some command =>
      pure (CommandLine.Outcome.ofResult (command.run (← readSource command.input)))
  (← IO.getStdout).putStr outcome.output
  (← IO.getStderr).putStr outcome.report
  return outcome.code
