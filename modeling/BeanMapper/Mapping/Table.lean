import BeanMapper.Mapping.Matching
import BeanMapper.Text.Utf8

/-!
# Tables of setters — one line per setter, the arrows in one column

    Each setter is padded with blanks to a common width, the largest number of
    bytes that a setter has; the padding counts characters, of which a setter
    never has more than bytes, so no setter is wider than its column.
-/

namespace BeanMapper.Table

/-- The width of the column of setters. -/
def width (ms : List SetterMatch) : Nat :=
  (ms.map fun m => Text.byteLength m.setter.toList).foldl Nat.max 0

/-- A text with blanks after it up to a number of characters. -/
def pad (n : Nat) (cs : List Char) : List Char := cs ++ List.replicate (n - cs.length) ' '

/-- The line of a setter. -/
def row (n : Nat) (nullLabel : String) (m : SetterMatch) : String :=
  String.ofList (pad n m.setter.toList) ++ "  ← " ++ m.field.getD nullLabel

/-- One line per setter; a setter without a field has the label instead. -/
def rows (ms : List SetterMatch) (nullLabel : String) : List String :=
  ms.map (row (width ms) nullLabel)

end BeanMapper.Table
