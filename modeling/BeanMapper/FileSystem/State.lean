import BeanMapper.FileSystem.Path

/-!
# File systems — the files that a run can see

    A file system is a table of files by their steps from the root, the
    directories that may be empty, and a working directory.  Every directory
    on the way to a file is there.  Finding a path takes one step after the
    other: each step needs a directory to start from, and `..` goes back up.
-/

namespace BeanMapper

/-- A place in a file system: the steps that lead there from the root. -/
abbrev Place : Type := List String

/-- What a file holds. -/
inductive Content where
  /-- A text. -/
  | text (s : String)
  /-- Bytes that are no text. -/
  | binary
deriving DecidableEq

/-- Why a file cannot be read or written. -/
inductive FileError where
  | notFound
  | notADirectory
  | isADirectory
  | notText
deriving DecidableEq

/-- The words for why a file cannot be read or written. -/
def FileError.message : FileError → String
  | .notFound => "No such file or directory (os error 2)"
  | .notADirectory => "Not a directory (os error 20)"
  | .isADirectory => "Is a directory (os error 21)"
  | .notText => "stream did not contain valid UTF-8"

/-- The files that a run can see. -/
structure FileSystem where
  /-- The files with their places. -/
  files : List (Place × Content) := []
  /-- Directories, besides those on the way to a file. -/
  directories : List Place := []
  /-- The working directory. -/
  workingDirectory : Place := []
deriving DecidableEq

namespace FileSystem

/-- What is found at a place. -/
inductive Entry where
  | file (place : Place) (content : Content)
  | directory (place : Place)
deriving DecidableEq

/-- The content of the file at a place. -/
def contentAt? (fs : FileSystem) (place : Place) : Option Content := fs.files.lookup place

/-- Whether there is a directory at a place. -/
def isDirectoryAt (fs : FileSystem) (place : Place) : Bool :=
  place.isPrefixOf fs.workingDirectory
    || fs.directories.any (place.isPrefixOf ·)
    || fs.files.any fun f => place.isPrefixOf f.1 && place != f.1

/-- What is at a place. -/
def entryAt (fs : FileSystem) (place : Place) : Except FileError Entry :=
  match fs.contentAt? place with
  | some content => .ok (.file place content)
  | none => if fs.isDirectoryAt place then .ok (.directory place) else .error .notFound

/-- Takes one more step from what the steps before led to. -/
def step (fs : FileSystem) (from? : Except FileError Entry) (name : String) :
    Except FileError Entry :=
  match from? with
  | .error e => .error e
  | .ok (.file _ _) => .error .notADirectory
  | .ok (.directory place) =>
      if name = ".." then .ok (.directory place.dropLast)
      else fs.entryAt (place ++ [name])

/-- Where a path starts. -/
def startOf (fs : FileSystem) (path : String) : Place :=
  if Path.isAbsolute path.toList then [] else fs.workingDirectory

/-- The place that the spelling of a path leads to. -/
def placeOf (fs : FileSystem) (path : String) : Place :=
  (Path.steps path).foldl (fun place name => if name = ".." then place.dropLast else place ++ [name])
    (fs.startOf path)

/-- The path of a place from the root. -/
def pathOf (place : Place) : String := place.foldl Path.join "/"

/-- The path of the working directory from the root. -/
def workingPath (fs : FileSystem) : String := pathOf fs.workingDirectory

/-- Whether a path can only lead to a directory, by its last segment. -/
def wantsDirectory (path : String) : Bool :=
  match (Path.segments path.toList).getLast? with
  | some last => !Path.isStep last
  | none => false

/-- What a path leads to. -/
def find (fs : FileSystem) (path : String) : Except FileError Entry :=
  if path.isEmpty then .error .notFound
  else match (Path.steps path).foldl fs.step (.ok (.directory (fs.startOf path))) with
    | .ok (.file place content) =>
        if wantsDirectory path then .error .notADirectory else .ok (.file place content)
    | found => found

/-- Whether a path leads to a file. -/
def isFile (fs : FileSystem) (path : String) : Bool :=
  match fs.find path with
  | .ok (.file _ _) => true
  | _ => false

/-- Whether a path leads anywhere. -/
def pathExists (fs : FileSystem) (path : String) : Bool :=
  match fs.find path with
  | .ok _ => true
  | .error _ => false

/-- The place of the file that a path leads to. -/
def placeOfFile? (fs : FileSystem) (path : String) : Option Place :=
  match fs.find path with
  | .ok (.file place _) => some place
  | _ => none

/-- The text of the file that a path leads to. -/
def read (fs : FileSystem) (path : String) : Except FileError String :=
  match fs.find path with
  | .ok (.file _ (.text s)) => .ok s
  | .ok (.file _ .binary) => .error .notText
  | .ok (.directory _) => .error .isADirectory
  | .error e => .error e

/-- The files with the file at a place holding a text. -/
def putFile (files : List (Place × Content)) (place : Place) (text : String) :
    List (Place × Content) :=
  match files with
  | [] => [(place, .text text)]
  | (p, content) :: rest =>
      if p = place then (p, .text text) :: rest else (p, content) :: putFile rest place text

/-- The file system with the file at a place holding a text. -/
def put (fs : FileSystem) (place : Place) (text : String) : FileSystem :=
  { fs with files := putFile fs.files place text }

/-- Where a text can be written under a path: the directory has to be there, and no directory may
    stand in the way. -/
def target (fs : FileSystem) (path : String) : Except FileError Place :=
  if path.isEmpty then .error .notFound
  else
    let steps := Path.steps path
    match steps.dropLast.foldl fs.step (.ok (.directory (fs.startOf path))), steps.getLast? with
    | .error e, _ => .error e
    | .ok (.file _ _), _ => .error .notADirectory
    | .ok (.directory _), none => .error .isADirectory
    | .ok (.directory place), some name =>
        if wantsDirectory path || name = ".." || fs.isDirectoryAt (place ++ [name]) then
          .error .isADirectory
        else .ok (place ++ [name])

/-- Replaces what the file under a path holds, or makes a new file. -/
def write (fs : FileSystem) (path text : String) : Except FileError FileSystem :=
  (fs.target path).map fun place => fs.put place text

/-- Whether a name comes before another one or is the same, by code points. -/
def nameLe (a b : String) : Bool := !(b < a)

/-- Whether a place comes before another one in a walk through a directory: entries are visited in
    the order of their names, and what is in a directory right after it. -/
def placeLe : Place → Place → Bool
  | [], _ => true
  | _ :: _, [] => false
  | a :: as, b :: bs => if a = b then placeLe as bs else nameLe a b

/-- The names of directories that hold nothing written by hand. -/
def ignoredNames : List String := ["target", "build", "out", "node_modules"]

/-- Whether a walk passes over a directory by its name. -/
def isIgnored (name : String) : Bool :=
  name.toList.head? == some '.' || ignoredNames.contains name

/-- The files below a place with the steps that lead to them, in the order of a walk. -/
def filesBelow (fs : FileSystem) (place : Place) : List (Place × Content) :=
  let below := fs.files.filterMap fun f => (place.isPrefixOf? f.1).map fun rest => (rest, f.2)
  let seen := below.filter fun f => !f.1.dropLast.any isIgnored
  seen.mergeSort fun a b => placeLe a.1 b.1

/-- The files that a walk from a path visits: their paths, places and contents. -/
def walk (fs : FileSystem) (root : String) : List (String × Place × Content) :=
  match fs.find root with
  | .error _ => []
  | .ok (.file place content) => [(root, place, content)]
  | .ok (.directory place) =>
      (fs.filesBelow place).map fun f => (f.1.foldl Path.join root, place ++ f.1, f.2)

end FileSystem

end BeanMapper
