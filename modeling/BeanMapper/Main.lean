import BeanMapper.Command.Run

/-!
# Command line — the outer layer

    The files that a command can see are read first, the command is run on
    them, and the files that it changed are written.
-/

namespace BeanMapper.Disk

/-- What a file on the disk holds. -/
def contentOf (bytes : ByteArray) : Content :=
  match String.fromUTF8? bytes with
  | some text => .text text
  | none => .binary

/-- Adds an entry of a directory, if it is not known yet: a file with its content, or a directory. -/
def addEntry (fs : FileSystem) (place : Place) (entry : IO.FS.DirEntry) : IO FileSystem := do
  let inner := place ++ [entry.fileName]
  if (fs.contentAt? inner).isSome then return fs
  if ← entry.path.isDir then return { fs with directories := inner :: fs.directories }
  try
    let bytes ← IO.FS.readBinFile entry.path
    return { fs with files := fs.files ++ [(inner, contentOf bytes)] }
  catch _ => return fs

/-- The entries of a directory; there are none if it cannot be read. -/
def entriesOf (directory : String) : IO (Array IO.FS.DirEntry) := do
  let here ← IO.currentDir
  try (here / directory).readDir
  catch _ => return #[]

/-- Adds a directory, if there is one, and what stands in it. -/
def addDirectory (fs : FileSystem) (directory : String) : IO FileSystem := do
  let here ← IO.currentDir
  if !(← (here / directory).isDir) then return fs
  let place := fs.placeOf directory
  let known := { fs with directories := place :: fs.directories }
  (← entriesOf directory).foldlM (fun fs entry => addEntry fs place entry) known

/-- Adds everything below a directory that a walk visits. -/
partial def addTree (fs : FileSystem) (directory : String) : IO FileSystem := do
  let mut result ← addDirectory fs directory
  for entry in ← entriesOf directory do
    let isDirectory := (← entry.path.symlinkMetadata).type == .dir
    if isDirectory && !FileSystem.isIgnored entry.fileName then
      result ← addTree result (Path.join directory entry.fileName)
  return result

/-- The files that a command can see. -/
def load (command : Option Command) : IO FileSystem := do
  let start : FileSystem := { workingDirectory := Path.steps (← IO.currentDir).toString }
  match command with
  | none => return start
  | some command =>
      let known ← command.directories.foldlM addDirectory start
      match command.tree? known with
      | none => return known
      | some root => addTree (← addDirectory known (Path.directoryOf root)) root

/-- Writes the files that are not as they were before. -/
def store (before after : FileSystem) : IO Unit :=
  after.files.forM fun (place, content) => do
    match content with
    | .text text =>
        if before.contentAt? place != some content then
          IO.FS.writeFile (FileSystem.pathOf place) text
    | .binary => return

end BeanMapper.Disk

open BeanMapper in
/-- Runs the command that the arguments stand for. -/
def main (arguments : List String) : IO UInt32 := do
  let before ← Disk.load (Command.ofWords? arguments)
  let outcome := Command.run Json.Problem.message before arguments
  Disk.store before outcome.fileSystem
  IO.print outcome.output
  IO.eprint outcome.errors
  return UInt32.ofNat outcome.exitCode
