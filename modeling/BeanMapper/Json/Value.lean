/-!
# JSON values — data that can be written as JSON

    The values that the library writes: numbers are natural, and the members
    of an object keep their order.  There are two written forms, one on a
    single line and one with an item a line and two blanks of indentation.
-/

namespace BeanMapper.Json

/-- A value that can be written as JSON. -/
inductive Value where
  | null
  | bool (b : Bool)
  | number (n : Nat)
  | string (s : String)
  | array (items : List Value)
  | object (members : List (String × Value))

/-- The lower-case hexadecimal digit of a number below sixteen. -/
def hexDigit (n : Nat) : Char :=
  if n < 10 then Char.ofNat (48 + n) else Char.ofNat (87 + n)

/-- A character as it is written inside quotes: quotes, backslashes and control characters are
    escaped. -/
def escapeChar (c : Char) : List Char :=
  if c = '"' then ['\\', '"']
  else if c = '\\' then ['\\', '\\']
  else if c = '\n' then ['\\', 'n']
  else if c = '\r' then ['\\', 'r']
  else if c = '\t' then ['\\', 't']
  else if c = '\x08' then ['\\', 'b']
  else if c = '\x0c' then ['\\', 'f']
  else if c.toNat < 32 then
    ['\\', 'u', '0', '0', hexDigit (c.toNat / 16), hexDigit (c.toNat % 16)]
  else [c]

/-- A text in quotes. -/
def quote (cs : List Char) : List Char := '"' :: cs.flatMap escapeChar ++ ['"']

/-- A newline and the blanks at the beginning of a line at some depth. -/
def newLine (depth : Nat) : List Char := '\n' :: List.replicate (2 * depth) ' '

mutual

/-- A value on a single line. -/
def Value.compact : Value → List Char
  | .null => ['n', 'u', 'l', 'l']
  | .bool true => ['t', 'r', 'u', 'e']
  | .bool false => ['f', 'a', 'l', 's', 'e']
  | .number n => (toString n).toList
  | .string s => quote s.toList
  | .array [] => ['[', ']']
  | .array (item :: items) => '[' :: (item.compact ++ compactItems items)
  | .object [] => ['{', '}']
  | .object ((key, value) :: members) =>
      '{' :: (quote key.toList ++ ':' :: (value.compact ++ compactMembers members))

/-- The items after the first one, with their commas and the closing bracket. -/
def compactItems : List Value → List Char
  | [] => [']']
  | item :: items => ',' :: (item.compact ++ compactItems items)

/-- The members after the first one, with their commas and the closing brace. -/
def compactMembers : List (String × Value) → List Char
  | [] => ['}']
  | (key, value) :: members =>
      ',' :: (quote key.toList ++ ':' :: (value.compact ++ compactMembers members))

end

mutual

/-- A value over several lines; its first line starts at some depth. -/
def Value.pretty (depth : Nat) : Value → List Char
  | .null => ['n', 'u', 'l', 'l']
  | .bool true => ['t', 'r', 'u', 'e']
  | .bool false => ['f', 'a', 'l', 's', 'e']
  | .number n => (toString n).toList
  | .string s => quote s.toList
  | .array [] => ['[', ']']
  | .array (item :: items) =>
      '[' :: (newLine (depth + 1) ++ item.pretty (depth + 1) ++ prettyItems depth items)
  | .object [] => ['{', '}']
  | .object ((key, value) :: members) =>
      '{' :: (newLine (depth + 1) ++ quote key.toList ++ ':' :: ' ' ::
        (value.pretty (depth + 1) ++ prettyMembers depth members))

/-- The items after the first one, each on a line of its own, and the closing bracket. -/
def prettyItems (depth : Nat) : List Value → List Char
  | [] => newLine depth ++ [']']
  | item :: items =>
      ',' :: (newLine (depth + 1) ++ item.pretty (depth + 1) ++ prettyItems depth items)

/-- The members after the first one, each on a line of its own, and the closing brace. -/
def prettyMembers (depth : Nat) : List (String × Value) → List Char
  | [] => newLine depth ++ ['}']
  | (key, value) :: members =>
      ',' :: (newLine (depth + 1) ++ quote key.toList ++ ':' :: ' ' ::
        (value.pretty (depth + 1) ++ prettyMembers depth members))

end

/-- The text of a value on a single line. -/
def Value.line (v : Value) : String := String.ofList v.compact

/-- The text of a value over several lines. -/
def Value.text (v : Value) : String := String.ofList (v.pretty 0)

end BeanMapper.Json
