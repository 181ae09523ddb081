import BeanMapper.Text.Split
import BeanMapper.Unicode.Classes

/-!
# Lines — cutting a text at its newlines, and trimming

    `splitLines` cuts at every newline, so a text has one line more than it
    has newlines and the last one may be empty.  `lines` is the reader's view:
    an empty last line is no line, and a line that a newline ends loses a
    carriage return before it.
-/

namespace BeanMapper.Text

/-- The parts of a text between its newlines. -/
def splitLines (cs : List Char) : List (List Char) := splitOn '\n' cs

/-- A text without the given character at its end, if it stands there. -/
def dropLast (x : Char) (cs : List Char) : List Char :=
  if cs.getLast? = some x then cs.dropLast else cs

/-- A line without the carriage return at its end. -/
def withoutReturn (line : List Char) : List Char := dropLast '\r' line

/-- The lines that a newline ends, without a carriage return, and the rest unless it is empty. -/
def lines (cs : List Char) : List (List Char) :=
  let parts := splitLines cs
  parts.dropLast.map withoutReturn ++ (parts.getLast?.filter (! ·.isEmpty)).toList

/-- A text without white space at its start. -/
def trimStart (cs : List Char) : List Char := cs.dropWhile Unicode.isWhiteSpace

/-- A text without white space at its end. -/
def trimEnd (cs : List Char) : List Char := (cs.reverse.dropWhile Unicode.isWhiteSpace).reverse

/-- A text without white space at either end. -/
def trim (cs : List Char) : List Char := trimEnd (trimStart cs)

/-- Whether a text holds white space only. -/
def isBlank (cs : List Char) : Bool := cs.all Unicode.isWhiteSpace

/-- The characters after the last newline. -/
def lastLine (cs : List Char) : List Char := (cs.reverse.takeWhile (· ≠ '\n')).reverse

/-- A text has one line more than it has newlines. -/
theorem length_splitLines (cs : List Char) : (splitLines cs).length = cs.count '\n' + 1 :=
  length_splitOn '\n' cs

end BeanMapper.Text
