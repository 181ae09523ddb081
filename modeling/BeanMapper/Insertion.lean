import BeanMapper.Text.Lines
import BeanMapper.Text.Utf8

/-!
# Insertion — putting a snippet into a document

    The snippet is spliced in at a byte offset, and nothing else changes.  On
    request its lines are indented first: every line after the first one that
    is not blank gets the indentation of the document's line at the offset,
    and one unit more if it begins with a dot.
-/

namespace BeanMapper

/-- Why a snippet cannot be inserted. -/
inductive InsertionError where
  /-- The offset is past the end of the document or inside a character. -/
  | notABoundary (offset length : Nat)
deriving DecidableEq

/-- The words for an error of an insertion. -/
def InsertionError.message : InsertionError → String
  | .notABoundary offset length =>
      "offset " ++ toString offset ++ " is not a character boundary of the document ("
        ++ toString length ++ " bytes)"

/-- A document with a snippet in it. -/
structure Insertion where
  /-- The document after the insertion. -/
  text : String
  /-- Where the inserted bytes start. -/
  start : Nat
  /-- Where the inserted bytes end. -/
  stop : Nat
deriving DecidableEq

namespace Insertion

/-- The caret stands at the end of what is inserted. -/
def caret (i : Insertion) : Nat := i.stop

/-- Whether a character can be part of an indentation. -/
def isIndentChar (c : Char) : Bool := c == ' ' || c == '\t'

/-- The indentation of the line on which a document is cut in two. -/
def lineIndent (before after : List Char) : List Char :=
  (Text.lastLine before ++ after).takeWhile isIndentChar

/-- A line of a snippet under the given indentation. -/
def indentLine (indent unit line : List Char) : List Char :=
  if Text.isBlank line then line
  else if line.head? = some '.' then indent ++ unit ++ line
  else indent ++ line

/-- The first line as it is and the other ones indented. -/
def indentLines (indent unit : List Char) : List (List Char) → List (List Char)
  | [] => []
  | first :: rest => first :: rest.map (indentLine indent unit)

/-- The snippet as it goes into the document. -/
def fit (before after snippet : List Char) : Option String → List Char
  | none => snippet
  | some unit =>
      let lines := Text.splitLines snippet
      Text.joinWith '\n' (indentLines (lineIndent before after) unit.toList lines)

/-- Inserts a snippet at a byte offset, indented if an indentation unit is given. -/
def insert (document : String) (offset : Nat) (snippet : String) (unit : Option String) :
    Except InsertionError Insertion :=
  match Text.splitAt? offset document.toList with
  | none => .error (.notABoundary offset (Text.byteLength document.toList))
  | some (before, after) =>
      let inserted := fit before after snippet.toList unit
      .ok ⟨String.ofList (before ++ inserted ++ after), offset, offset + Text.byteLength inserted⟩

end Insertion

end BeanMapper
