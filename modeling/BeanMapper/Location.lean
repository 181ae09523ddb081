import BeanMapper.Position
import BeanMapper.Text.Split

/-!
# Locations — `FILE:LINE` and `FILE:LINE:COLUMN` arguments

    An argument is read from its end: the last number after a colon is the
    line, unless another number stands before it and it is the column.  What
    is left over is the path, so a path may hold colons itself.  Numbers are
    written from one and kept from zero; zero counts as one.
-/

namespace BeanMapper

/-- A place in a file. -/
structure Location where
  /-- The path of the file. -/
  path : String
  /-- The index of the line, from zero. -/
  line : Nat
  /-- The index of the column, from zero, if one is given. -/
  column : Option Nat
deriving DecidableEq

namespace Location

/-- The location as an argument, with numbers from one. -/
def display (location : Location) : String :=
  let start := location.path ++ ":" ++ toString (location.line + 1)
  match location.column with
  | some column => start ++ ":" ++ toString (column + 1)
  | none => start

/-- Why an argument is no location, or a location is no place in its file. -/
inductive Fault where
  /-- The argument does not end in a number. -/
  | missingLine (argument : String)
  /-- The argument holds nothing but numbers. -/
  | missingPath (argument : String)
  /-- The line is past the end of the file. -/
  | pastEnd (location : Location)
deriving DecidableEq

/-- The words for a fault of a location. -/
def Fault.message : Fault → String
  | .missingLine argument =>
      "Missing line number in '" ++ argument ++ "' (expected FILE:LINE or FILE:LINE:COLUMN)"
  | .missingPath argument => "Missing file path in '" ++ argument ++ "'"
  | .pastEnd location => location.display ++ " is past the end of the file"

/-- What stands before the last colon and the number after it, if a number stands there. -/
def splitNumber? (cs : List Char) : Option (List Char × Nat) :=
  match Text.splitLast? ':' cs with
  | none => none
  | some (rest, digits) => (Text.readWord? digits).map fun n => (rest, n)

/-- Reads a location from an argument. -/
def parse (argument : String) : Except Fault Location :=
  match splitNumber? argument.toList with
  | none => .error (.missingLine argument)
  | some (rest, last) =>
      let (path, line, column) :=
        match splitNumber? rest with
        | some (path, line) => (path, line, some last)
        | none => (rest, last, none)
      if path.isEmpty then .error (.missingPath argument)
      else .ok ⟨String.ofList path, line - 1, column.map (· - 1)⟩

/-- Whether a line ends in an opening brace and a blank line follows it. -/
def opensBlankBlock (source : String) (line : Nat) : Bool :=
  match (Text.lines source.toList).drop line with
  | opening :: next :: _ => (Text.trimEnd opening).getLast? == some '{' && Text.isBlank next
  | _ => false

/-- The position that a location stands for in a text.  Without a column it is the end of the
    line, or of the next one if that is blank and the line opens a block. -/
def position? (location : Location) (source : String) : Option Position :=
  let line := UInt32.ofNat location.line
  match location.column with
  | some column => some ⟨line, UInt32.ofNat column⟩
  | none =>
      if opensBlankBlock source location.line then Position.endOfLine? source (line + 1)
      else Position.endOfLine? source line

/-- The byte offset of a location in a text. -/
def resolve (location : Location) (source : String) : Except Fault Nat :=
  match (location.position? source).bind (·.toOffset? source) with
  | some offset => .ok offset
  | none => .error (.pastEnd location)

end Location

end BeanMapper
