import BeanMapper.Unicode.PrintedRanges

/-!
# Quoted texts — a text shown in a message

    In quotes a text shows every character so that it can be seen: quotes and
    backslashes have a backslash in front, four control characters have short
    names, and a character that does not print, or that only marks the one
    before it, is given by its code point.
-/

namespace BeanMapper.Text

/-- A number in lower-case hexadecimal digits. -/
def hex (n : Nat) : List Char := Nat.toDigits 16 n

/-- Whether a character can be seen where it stands alone. -/
def isVisible (c : Char) : Bool :=
  !Unicode.inRanges Unicode.unprintableRanges c.toNat
    && !Unicode.inRanges Unicode.graphemeExtendRanges c.toNat

/-- A character as it is shown in quotes. -/
def showChar (c : Char) : List Char :=
  if c = '"' then ['\\', '"']
  else if c = '\\' then ['\\', '\\']
  else if c = '\n' then ['\\', 'n']
  else if c = '\r' then ['\\', 'r']
  else if c = '\t' then ['\\', 't']
  else if c.toNat = 0 then ['\\', '0']
  else if isVisible c then [c]
  else '\\' :: 'u' :: '{' :: (hex c.toNat ++ ['}'])

/-- A text in quotes. -/
def quoted (s : String) : String := String.ofList ('"' :: s.toList.flatMap showChar ++ ['"'])

end BeanMapper.Text
