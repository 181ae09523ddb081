import BeanMapper.Text.Split

/-!
# Paths — file names as they are written

    A path is a text of segments between slashes.  A segment that is empty or
    a single dot means nothing, except for a dot at the very beginning, so a
    path has a last segment and a part before it; `parent?` takes the last one
    off and keeps the rest as it is spelled.
-/

namespace BeanMapper.Path

/-- Whether a path starts at the root of the file system. -/
def isAbsolute (path : List Char) : Bool := path.head? == some '/'

/-- The segments of a path, the meaningless ones too. -/
def segments (path : List Char) : List (List Char) := Text.splitOn '/' path

/-- Whether a segment stands for a step. -/
def isStep (segment : List Char) : Bool := !(segment.isEmpty || segment == ['.'])

/-- The steps of a path. -/
def steps (path : String) : List String :=
  ((segments path.toList).filter isStep).map String.ofList

/-- The last meaningful segment of the reversed segments of a relative path and what stands before
    it; a dot is meaningful if nothing stands before it. -/
def splitLast? : List (List Char) → Option (List Char × List (List Char))
  | [] => none
  | segment :: before =>
      if isStep segment || (segment == ['.'] && before.isEmpty) then some (segment, before)
      else splitLast? before

/-- The reversed segments of a relative path without meaningless ones at its end. -/
def tidy (reversed : List (List Char)) : List (List Char) :=
  match splitLast? reversed with
  | none => []
  | some (last, before) => last :: before

/-- The part of a path before its last segment, if there is a last segment. -/
def parentChars? (path : List Char) : Option (List Char) :=
  if isAbsolute path then
    match (segments (path.drop 1)).reverse.dropWhile (! isStep ·) with
    | [] => none
    | _ :: before => some ('/' :: Text.joinWith '/' (before.dropWhile (! isStep ·)).reverse)
  else
    (splitLast? (segments path).reverse).map fun p => Text.joinWith '/' (tidy p.2).reverse

/-- The part of a path before its last segment, if there is a last segment. -/
def parent? (path : String) : Option String := (parentChars? path.toList).map String.ofList

/-- A path, its parent, the parent of that, and so on; `fuel` bounds their number. -/
def ancestorsUpTo : Nat → String → List String
  | 0, path => [path]
  | fuel + 1, path =>
      match parent? path with
      | none => [path]
      | some parent => path :: ancestorsUpTo fuel parent

/-- A path and everything above it that its spelling names, nearest first. -/
def ancestors (path : String) : List String := ancestorsUpTo path.length path

/-- The path of an entry of a directory. -/
def join (directory name : String) : String :=
  if directory.isEmpty then name
  else if directory.toList.getLast? = some '/' then directory ++ name
  else directory ++ "/" ++ name

/-- The last step of a path, unless it leads upwards or there is none. -/
def fileName? (path : String) : Option String :=
  match (steps path).getLast? with
  | some ".." => none
  | last => last

/-- The part of a file name after its last dot, if something stands before that dot. -/
def extension? (name : String) : Option String :=
  match Text.splitLast? '.' name.toList with
  | some (_ :: _, after) => some (String.ofList after)
  | _ => none

/-- The directory of a file; a bare file name is in the directory `.`. -/
def directoryOf (file : String) : String :=
  match parent? file with
  | some directory => if directory.isEmpty then "." else directory
  | none => "."

end BeanMapper.Path
