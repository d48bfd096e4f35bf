import DocQuery.CommandLine.Input

/-!
# Trees of files

Files and directories held in memory, so that a command can be run without a file system. A path
is followed component by component: empty ones and single dots stay, two dots go up, and names go
down.
-/

namespace DocQuery

/-- A file with its bytes, or a directory with its entries. -/
inductive FileTree where
  | file (bytes : List UInt8)
  | directory (entries : List (String × FileTree))

namespace FileTree

/-- The number of bytes that a component of a path may have. -/
def maxComponentSize : Nat := 255

/-- The number of bytes that a path may have. -/
def maxPathSize : Nat := 4095

/-- Follows components from a place in a tree below directories, the nearest one first. Above the
topmost one there is only itself. -/
def follow : List FileTree → FileTree → List String → Except FileError FileTree
  | _, here, [] => .ok here
  | _, .file _, _ :: _ => .error .notDirectory
  | above, .directory entries, component :: rest =>
    let here := directory entries
    if component = "" ∨ component = "." then follow above here rest
    else if component = ".." then
      match above with
      | [] => follow [] here rest
      | parent :: above => follow above parent rest
    else if maxComponentSize < component.utf8ByteSize then .error .nameTooLong
    else
      match entries.lookup component with
      | some next => follow (here :: above) next rest
      | none => .error .missing

/-- The components of a path. -/
def components (path : String) : List String := (splitFrom [] path.toList).map String.ofList
where
  /-- The parts of a text between slashes, with the part read so far, its last character first. -/
  splitFrom : List Char → List Char → List (List Char)
    | part, [] => [part.reverse]
    | part, c :: rest =>
      if c = '/' then part.reverse :: splitFrom [] rest else splitFrom (c :: part) rest

/-- Adds a file to the entries of a directory, in the directories that its path leads through. -/
def addFile (bytes : List UInt8) :
    List String → List (String × FileTree) → List (String × FileTree)
  | [], entries => entries
  | [name], entries => (name, file bytes) :: entries
  | name :: rest, entries =>
    let inner := match entries.lookup name with
      | some (.directory inner) => inner
      | _ => []
    (name, directory (addFile bytes rest inner)) :: entries

/-- The directory that holds files at paths. -/
def ofFiles (files : List (String × List UInt8)) : FileTree :=
  .directory (files.foldl (fun entries (path, bytes) => addFile bytes (components path) entries) [])

/-- The bytes of a file. -/
def bytes : FileTree → Except FileError (List UInt8)
  | .file bytes => .ok bytes
  | .directory _ => .error .isDirectory

end FileTree

/-- What a command can read: the standard input, and files in a working directory. -/
structure Surroundings where
  standardInput : List UInt8
  /-- Relative paths start here. Where it lies is not known: nothing but it is found above it. -/
  workingDirectory : FileTree

namespace Surroundings

/-- The files that are found by paths from the root on every system. -/
def root (s : Surroundings) : FileTree :=
  .directory [
    ("dev", .directory [("null", .file []), ("stdin", .file s.standardInput)]),
    ("etc", .directory []), ("tmp", .directory []), ("usr", .directory [])]

/-- The bytes of the file at a path. -/
def read (s : Surroundings) (path : String) : Except FileError (List UInt8) := do
  if path.isEmpty then throw .missing
  if FileTree.maxPathSize < path.utf8ByteSize then throw .nameTooLong
  let parts := FileTree.components path
  let place ←
    if path.toList.head? = some '/' then FileTree.follow [] s.root parts
    else FileTree.follow [.directory []] s.workingDirectory parts
  place.bytes

/-- What a command reads. -/
def source (s : Surroundings) : CommandInput → CommandLine.Source
  | .nothing => .ok []
  | .standard => .ok s.standardInput
  | .file name => (s.read name).mapError (FileError.failure name)

end Surroundings

end DocQuery
