import BeanMapper.Text.Lines
import BeanMapper.Text.Utf8

/-!
# Positions — line and character instead of a byte offset

    Lines and characters are counted from zero, characters as code points, and
    both are words of 32 bits.  A line ends before its newline and before a
    carriage return in front of that; a character index past the end of the
    line stands for the end of the line.
-/

namespace BeanMapper

/-- A place in a text, by line and by character in the line. -/
structure Position where
  /-- The index of the line. -/
  line : UInt32
  /-- The index of the character in the line. -/
  character : UInt32
deriving DecidableEq

namespace Position

/-- Whether a position stands before another one, or is the same. -/
def le (p q : Position) : Bool :=
  p.line < q.line || (p.line == q.line && p.character ≤ q.character)

/-- The number of bytes before a line, of a text given by its lines. -/
def lineStart (lines : List (List Char)) (line : Nat) : Nat :=
  (lines.take line).foldr (fun l n => Text.byteLength l + 1 + n) 0

/-- The byte offset of a position, unless its line is past the end of the text. -/
def toOffset? (p : Position) (source : String) : Option Nat :=
  let lines := Text.splitLines source.toList
  lines[p.line.toNat]?.map fun line =>
    lineStart lines p.line.toNat
      + Text.byteLength ((Text.withoutReturn line).take p.character.toNat)

/-- The position of the end of a line, unless there is no such line. -/
def endOfLine? (source : String) (line : UInt32) : Option Position :=
  (Text.splitLines source.toList)[line.toNat]?.map fun text =>
    ⟨line, UInt32.ofNat (Text.withoutReturn text).length⟩

/-- The position at the end of a text. -/
def atEndOf (before : List Char) : Position :=
  ⟨UInt32.ofNat (before.count '\n'), UInt32.ofNat (Text.lastLine before).length⟩

/-- The position of a byte offset, unless it is past the end or inside a character. -/
def fromOffset? (source : String) (offset : Nat) : Option Position :=
  (Text.splitAt? offset source.toList).map fun parts => atEndOf parts.1

end Position

end BeanMapper
