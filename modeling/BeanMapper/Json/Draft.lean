import BeanMapper.Json.Numeral
import BeanMapper.Text.Utf8

/-!
# JSON drafts — a text read as far as it goes

    A draft is the tree of a JSON text with the places marked at which the
    text breaks off or goes wrong.  Whoever takes a value out of a draft walks
    it in the order of the text and so meets the first problem first, be it
    one of the text or one of its content.

    Some faults are met only by a reader who wants the value: one who passes
    over it does not care whether a number is too large or a surrogate has no
    partner, and finds fault with a broken number at the character where it
    breaks.  So broken texts and scalars carry two answers.
-/

namespace BeanMapper.Json

/-- How a text fails to be JSON. -/
inductive Fault where
  /-- It ends too early. -/
  | ended
  /-- Something stands where it must not. -/
  | malformed
deriving DecidableEq

mutual

/-- What stands at a place where a value is expected. -/
inductive Draft where
  | null
  | bool (b : Bool)
  | number (n : Numeral)
  | string (s : String)
  /-- A text in quotes with a fault for its reader, and maybe one for who passes over it. -/
  | brokenText (read : Fault) (skip : Option Fault)
  /-- A word or number with a fault for its reader, and maybe one for who passes over it. -/
  | brokenScalar (read : Fault) (skip : Option Fault)
  /-- No value begins here. -/
  | missing (fault : Fault)
  | array (items : Items)
  | object (members : Members)

/-- What stands after an opening bracket. -/
inductive Items where
  | closed
  /-- Neither an item nor the closing bracket. -/
  | broken (fault : Fault)
  | item (first : Draft) (rest : Items)

/-- What stands after an opening brace. -/
inductive Members where
  | closed
  /-- Neither a member nor the closing brace. -/
  | broken (fault : Fault)
  | member (key value : Draft) (rest : Members)

end

namespace Draft

/-- What is read at a place, and what follows it unless the reading is stuck. -/
abbrev Reading (α : Type) : Type := α × Option (List Char)

/-- Whether a character may stand between the parts of a JSON text. -/
def isBlank (c : Char) : Bool := c = ' ' || c = '\n' || c = '\t' || c = '\r'

/-- A text without the blanks at its beginning. -/
def skipBlanks (cs : List Char) : List Char := cs.dropWhile isBlank

/-- What follows the given letters. -/
def afterLetters : List Char → List Char → Except Fault (List Char)
  | [], cs => .ok cs
  | _ :: _, [] => .error .ended
  | e :: es, c :: cs => if e = c then afterLetters es cs else .error .malformed

/-- Reads a word by its letters. -/
def readLetters (letters : List Char) (d : Draft) (cs : List Char) : Reading Draft :=
  match afterLetters letters cs with
  | .ok rest => (d, some rest)
  | .error fault => (.brokenScalar fault (some fault), none)

/-- The fault of a text that should go on with a digit. -/
def missingDigit : List Char → Draft
  | [] => .brokenScalar .ended (some .malformed)
  | _ => .brokenScalar .malformed (some .malformed)

/-- The digits at the beginning of a text, and the rest. -/
def spanDigits (cs : List Char) : List Char × List Char :=
  (cs.takeWhile Char.isDigit, cs.dropWhile Char.isDigit)

/-- The value of a number that is spelled out in full. -/
def ofSpelling (s : Spelling) : Draft :=
  match Numeral.ofSpelling? s with
  | some n => .number n
  | none => .brokenScalar .malformed none

/-- Reads the exponent of a number, if there is one. -/
def readExponent (s : Spelling) (cs : List Char) : Reading Draft :=
  match cs with
  | [] => (ofSpelling s, some [])
  | c :: rest =>
      if c = 'e' || c = 'E' then
        let (isNegative, digits) :=
          match rest with
          | '-' :: after => (true, after)
          | '+' :: after => (false, after)
          | _ => (false, rest)
        match spanDigits digits with
        | ([], after) => (missingDigit after, none)
        | (ds, after) => (ofSpelling { s with exponent := some (isNegative, ds) }, some after)
      else (ofSpelling s, some cs)

/-- Reads the fraction of a number, if there is one, and its exponent. -/
def readFraction (s : Spelling) (cs : List Char) : Reading Draft :=
  match cs with
  | '.' :: rest =>
      match spanDigits rest with
      | ([], after) => (missingDigit after, none)
      | (ds, after) => readExponent { s with fraction := some ds } after
  | _ => readExponent s cs

/-- Reads the digits of a number that may have a minus sign in front. -/
def readDigits (isNegative : Bool) (cs : List Char) : Reading Draft :=
  match spanDigits cs with
  | ([], after) => (missingDigit after, none)
  | ('0' :: _ :: _, _) => (.brokenScalar .malformed (some .malformed), none)
  | (ds, after) => readFraction ⟨isNegative, ds, none, none⟩ after

/-- The value of a hexadecimal digit. -/
def hexValue? (c : Char) : Option Nat :=
  if c.isDigit then some (c.toNat - 48)
  else if 'a' ≤ c ∧ c ≤ 'f' then some (c.toNat - 87)
  else if 'A' ≤ c ∧ c ≤ 'F' then some (c.toNat - 55)
  else none

/-- Reads four hexadecimal digits; the text ends too early if fewer than four bytes are left. -/
def readUnit (cs : List Char) : Except Fault (Nat × List Char) :=
  if Text.byteLength (cs.take 4) < 4 then .error .ended
  else match (cs.take 4).mapM hexValue? with
    | some ds => .ok (ds.foldl (fun n d => 16 * n + d) 0, cs.drop 4)
    | none => .error .malformed

/-- What stands at the beginning of the inside of a text in quotes. -/
inductive Piece where
  /-- The closing quote. -/
  | close (rest : List Char)
  /-- A character, escaped or not. -/
  | char (c : Char) (rest : List Char)
  /-- One half of a character, with the fault that its reader finds. -/
  | half (fault : Fault) (rest : List Char)
  /-- Nothing that may stand there. -/
  | stuck (fault : Fault)

/-- The second half of a character whose first half is read, with what follows it. -/
def secondHalf (cs : List Char) : Except Fault (Nat × List Char) := do
  let (unit, rest) ← readUnit (← afterLetters ['\\', 'u'] cs)
  if 0xDC00 ≤ unit ∧ unit ≤ 0xDFFF then .ok (unit, rest) else .error .malformed

/-- The character that an escape by its code stands for. -/
def codePiece (cs : List Char) : Piece :=
  match readUnit cs with
  | .error fault => .stuck fault
  | .ok (unit, rest) =>
      if 0xDC00 ≤ unit ∧ unit ≤ 0xDFFF then .half .malformed rest
      else if 0xD800 ≤ unit ∧ unit ≤ 0xDBFF then
        match secondHalf rest with
        | .ok (second, after) =>
            .char (Char.ofNat (0x10000 + 0x400 * (unit - 0xD800) + (second - 0xDC00))) after
        | .error fault => .half fault rest
      else .char (Char.ofNat unit) rest

/-- What stands after a backslash. -/
def escapePiece : List Char → Piece
  | [] => .stuck .ended
  | '"' :: rest => .char '"' rest
  | '\\' :: rest => .char '\\' rest
  | '/' :: rest => .char '/' rest
  | 'b' :: rest => .char '\x08' rest
  | 'f' :: rest => .char '\x0c' rest
  | 'n' :: rest => .char '\n' rest
  | 'r' :: rest => .char '\r' rest
  | 't' :: rest => .char '\t' rest
  | 'u' :: rest => codePiece rest
  | _ :: _ => .stuck .malformed

/-- What stands at the beginning of the inside of a text in quotes. -/
def piece : List Char → Piece
  | [] => .stuck .ended
  | '"' :: rest => .close rest
  | '\\' :: rest => escapePiece rest
  | c :: rest => if c.toNat < 32 then .stuck .malformed else .char c rest

/-- Reads the inside of a text in quotes of which the characters `before` are read, last one
    first; `fault` is the first fault of its reader so far. -/
def readChars : Nat → Option Fault → List Char → List Char → Reading Draft
  | 0, _, _, _ => (.brokenText .malformed (some .malformed), none)
  | fuel + 1, fault, before, cs =>
      match piece cs with
      | .close rest =>
          match fault with
          | none => (.string (String.ofList before.reverse), some rest)
          | some f => (.brokenText f none, some rest)
      | .char c rest => readChars fuel fault (c :: before) rest
      | .half f rest => readChars fuel (some (fault.getD f)) before rest
      | .stuck f => (.brokenText (fault.getD f) (some f), none)

/-- Reads a text in quotes after its opening quote. -/
def readText (cs : List Char) : Reading Draft := readChars (cs.length + 1) none [] cs

/-- Reads a value that is neither an array nor an object. -/
def readScalar : List Char → Reading Draft
  | [] => (.missing .ended, none)
  | '"' :: rest => readText rest
  | 'n' :: rest => readLetters ['u', 'l', 'l'] .null rest
  | 't' :: rest => readLetters ['r', 'u', 'e'] (.bool true) rest
  | 'f' :: rest => readLetters ['a', 'l', 's', 'e'] (.bool false) rest
  | '-' :: rest => readDigits true rest
  | c :: rest => if c.isDigit then readDigits false (c :: rest) else (.missing .malformed, none)

mutual

/-- Reads a value. -/
def readValue : Nat → List Char → Reading Draft
  | 0, _ => (.missing .malformed, none)
  | fuel + 1, cs =>
      match skipBlanks cs with
      | '[' :: rest =>
          match skipBlanks rest with
          | [] => (.array (.broken .ended), none)
          | ']' :: after => (.array .closed, some after)
          | _ =>
              let (items, after) := readItems fuel rest
              (.array items, after)
      | '{' :: rest =>
          match skipBlanks rest with
          | [] => (.object (.broken .ended), none)
          | '}' :: after => (.object .closed, some after)
          | _ =>
              let (members, after) := readMembers fuel rest
              (.object members, after)
      | rest => readScalar rest

/-- Reads an item of an array and everything up to the closing bracket. -/
def readItems : Nat → List Char → Reading Items
  | 0, _ => (.broken .malformed, none)
  | fuel + 1, cs =>
      match readValue fuel cs with
      | (d, none) => (.item d (.broken .malformed), none)
      | (d, some rest) =>
          match skipBlanks rest with
          | [] => (.item d (.broken .ended), none)
          | ']' :: after => (.item d .closed, some after)
          | ',' :: after =>
              let (items, final) := readItems fuel after
              (.item d items, final)
          | _ => (.item d (.broken .malformed), none)

/-- Reads a member of an object and everything up to the closing brace. -/
def readMembers : Nat → List Char → Reading Members
  | 0, _ => (.broken .malformed, none)
  | fuel + 1, cs =>
      match readValue fuel cs with
      | (key, none) => (.member key (.missing .malformed) (.broken .malformed), none)
      | (key, some rest) =>
          match skipBlanks rest with
          | [] => (.member key (.missing .ended) (.broken .ended), none)
          | ':' :: after =>
              match readValue fuel after with
              | (d, none) => (.member key d (.broken .malformed), none)
              | (d, some rest) =>
                  match skipBlanks rest with
                  | [] => (.member key d (.broken .ended), none)
                  | '}' :: after => (.member key d .closed, some after)
                  | ',' :: after =>
                      let (members, final) := readMembers fuel after
                      (.member key d members, final)
                  | _ => (.member key d (.broken .malformed), none)
          | _ => (.member key (.missing .malformed) (.broken .malformed), none)

end

/-- Reads the value at the beginning of a text. -/
def ofChars (cs : List Char) : Reading Draft := readValue (2 * cs.length + 2) cs

mutual

/-- The fault met by a reader who passes over a value. -/
def skipFault? : Draft → Option Fault
  | .null => none
  | .bool _ => none
  | .number _ => none
  | .string _ => none
  | .brokenText _ skip => skip
  | .brokenScalar _ skip => skip
  | .missing fault => some fault
  | .array items => skipItemsFault? items
  | .object members => skipMembersFault? members

/-- The fault met by a reader who passes over the items of an array. -/
def skipItemsFault? : Items → Option Fault
  | .closed => none
  | .broken fault => some fault
  | .item d rest =>
      match skipFault? d with
      | some fault => some fault
      | none => skipItemsFault? rest

/-- The fault met by a reader who passes over the members of an object; only texts are keys. -/
def skipMembersFault? : Members → Option Fault
  | .closed => none
  | .broken fault => some fault
  | .member key d rest =>
      let keyFault :=
        match key with
        | .string _ => none
        | .brokenText _ skip => skip
        | .missing fault => some fault
        | _ => some .malformed
      match keyFault with
      | some fault => some fault
      | none =>
          match skipFault? d with
          | some fault => some fault
          | none => skipMembersFault? rest

end

end Draft

end BeanMapper.Json
