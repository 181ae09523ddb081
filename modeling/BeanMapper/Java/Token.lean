import BeanMapper.Java.Syntax
import BeanMapper.Unicode.Classes

/-!
# Tokens — the words, literals and symbols of a Java text

    A text is cut into lexemes, each as long as it can be: words, numbers,
    characters, strings, symbols, comments and white space.  Tokens are the
    lexemes that the grammar reads, with their byte ranges; comments are
    collected beside them, and white space is dropped.  A closing angle
    bracket is always a token of its own, since it may close type arguments.
-/

namespace BeanMapper.Java

/-- What sort of token a lexeme is. -/
inductive Shape where
  | word
  | number
  | character
  | string
  | symbol
deriving DecidableEq

/-- A token with its byte range. -/
structure Token where
  /-- What sort of token it is. -/
  shape : Shape
  /-- The text of a word or symbol, empty for literals. -/
  text : String
  /-- The offset of its first byte. -/
  start : Nat
  /-- The offset after its last byte. -/
  stop : Nat
  /-- The parts of a string. -/
  parts : List Node := []

namespace Lexer

/-- Whether a character separates tokens. -/
def isBlank (c : Char) : Bool := c = ' ' || (9 ≤ c.toNat && c.toNat ≤ 13)

/-- What follows the longest run of groups of characters of a class, with single underscores
    between the groups; `inGroup` says whether a group is open. -/
def afterGroups (p : Char → Bool) (inGroup : Bool) : List Char → List Char
  | [] => []
  | '_' :: c :: cs =>
      if inGroup && p c then afterGroups p true (c :: cs) else '_' :: c :: cs
  | c :: cs => if p c then afterGroups p true cs else c :: cs

/-- Whether a character is a hexadecimal digit. -/
def isHexDigit (c : Char) : Bool :=
  c.isDigit || ('a' ≤ c && c ≤ 'f') || ('A' ≤ c && c ≤ 'F')

/-- Whether a text starts with a character of a class. -/
def startsWith (p : Char → Bool) (cs : List Char) : Bool := cs.head?.any p

/-- What follows a sign, if one stands there. -/
def afterSign : List Char → List Char
  | '+' :: cs => cs
  | '-' :: cs => cs
  | cs => cs

/-- What follows the exponent of a number, if one stands there that begins with a letter of the
    given class. -/
def afterExponent (isMark : Char → Bool) : List Char → List Char
  | [] => []
  | c :: cs =>
      if isMark c && startsWith Char.isDigit (afterSign cs) then
        afterGroups Char.isDigit false (afterSign cs)
      else c :: cs

/-- What follows one letter of a class, if it stands there. -/
def afterLetter (p : Char → Bool) : List Char → List Char
  | [] => []
  | c :: cs => if p c then cs else c :: cs

/-- Whether a letter may end a number and says of which type it is. -/
def isSuffix (c : Char) : Bool := "lLfFdD".toList.contains c

/-- Whether a letter may end a whole number. -/
def isLongMark (c : Char) : Bool := c = 'l' || c = 'L'

/-- Whether a character is an octal digit. -/
def isOctalDigit (c : Char) : Bool := '0' ≤ c && c ≤ '7'

/-- What follows a hexadecimal number after its first two characters. -/
def afterHex (cs : List Char) : List Char :=
  let whole := afterGroups isHexDigit false cs
  let fraction :=
    match whole with
    | '.' :: rest => if startsWith isHexDigit rest then afterGroups isHexDigit false rest else rest
    | rest => rest
  afterLetter isSuffix (afterExponent (fun c => c = 'p' || c = 'P') fraction)

/-- What follows a decimal number. -/
def afterDecimal (cs : List Char) : List Char :=
  let whole := afterGroups Char.isDigit false cs
  let fraction :=
    match whole with
    | '.' :: rest => if startsWith Char.isDigit rest then afterGroups Char.isDigit false rest else rest
    | rest => rest
  afterLetter isSuffix (afterExponent (fun c => c = 'e' || c = 'E') fraction)

/-- What follows a number. -/
def afterNumber : List Char → List Char
  | '0' :: c :: cs =>
      if (c = 'x' || c = 'X') && startsWith (fun d => isHexDigit d || d = '.') cs then afterHex cs
      else if (c = 'b' || c = 'B') && startsWith (fun d => d = '0' || d = '1') cs then
        afterLetter isLongMark (afterGroups (fun d => d = '0' || d = '1') false cs)
      else if c.isDigit && !startsWith (· = '.') (afterGroups Char.isDigit false (c :: cs)) then
        afterLetter isLongMark (afterGroups isOctalDigit false (c :: cs))
      else afterDecimal ('0' :: c :: cs)
  | cs => afterDecimal cs

/-- What follows a character literal after its opening quote; `isEmpty` says whether nothing stands
    between the quotes yet. -/
def afterCharacter? (isEmpty : Bool) : List Char → Option (List Char)
  | [] => none
  | ['\\'] => none
  | '\\' :: _ :: cs => afterCharacter? false cs
  | '\'' :: cs => if isEmpty then none else some cs
  | c :: cs => if c = '\n' then none else afterCharacter? false cs

/-- The number of characters of the escape sequence that follows a backslash. -/
def escapeLength : List Char → Option Nat
  | [] => none
  | c :: cs =>
      if c = 'u' then
        let marks := 1 + (cs.takeWhile (· = 'u')).length
        let digits := cs.drop (marks - 1)
        if (digits.take 4).length = 4 && (digits.take 4).all isHexDigit then some (marks + 4)
        else none
      else if c = 'x' then
        if (cs.take 2).length = 2 && (cs.take 2).all isHexDigit then some 3 else none
      else if isOctalDigit c then some (1 + ((cs.take 2).takeWhile isOctalDigit).length)
      else some 1

/-- A part of a string. -/
def part (kind : Kind) (start : Nat) (cs : List Char) : Node :=
  .mk kind .none start (start + Text.byteLength cs) []

/-- The parts of a string of which `open?` is the part being read, if it is not empty. -/
def closeFragment (start : Nat) (reversed : List Char) (parts : List Node) : List Node :=
  if reversed.isEmpty then parts else part .stringFragment start reversed :: parts

/-- Reads a string after its opening quotes, from the byte offset `offset`: its parts, last one first,
    and what follows the closing quotes.  The fragment being read started at `start`. -/
def readString (isBlock : Bool) : Nat → Nat → Nat → List Char → List Node → List Char →
    Option (List Node × List Char)
  | 0, _, _, _, _, _ => none
  | fuel + 1, offset, start, fragment, parts, cs =>
      match cs with
      | [] => none
      | '\\' :: rest =>
          match escapeLength rest with
          | none => none
          | some n =>
              let escape := '\\' :: rest.take n
              let stop := offset + Text.byteLength escape
              readString isBlock fuel stop stop []
                (part .escapeSequence offset escape :: closeFragment start fragment parts)
                (rest.drop n)
      | '"' :: rest =>
          if !isBlock then some (closeFragment start fragment parts, rest)
          else match rest with
            | '"' :: '"' :: after => some (closeFragment start fragment parts, after)
            | _ => readString isBlock fuel (offset + 1) start ('"' :: fragment) parts rest
      | c :: rest =>
          readString isBlock fuel (offset + c.utf8Size) start (c :: fragment) parts rest

/-- What follows a comment that ends at an asterisk and a slash. -/
def afterBlockComment? : List Char → Option (List Char)
  | [] => none
  | '*' :: '/' :: cs => some cs
  | _ :: cs => afterBlockComment? cs

/-- The symbols of more than one character that are one token, no symbol before a longer one that
    starts with it. -/
def longSymbols : List String :=
  ["...", "<<=", "->", "::", "++", "--", "&&", "||", "==", "!=", "<=", "<<", "+=", "-=", "*=",
   "/=", "&=", "|=", "^=", "%="]

/-- The symbols of one character. -/
def shortSymbols : List Char := "()\x7b\x7d[];,.@=<>!~?:+-*/&|^%".toList

/-- The symbol that a text starts with. -/
def symbol? (cs : List Char) : Option String :=
  match longSymbols.find? fun s => s.toList.isPrefixOf cs with
  | some s => some s
  | none =>
      match cs with
      | [] => none
      | c :: _ => if shortSymbols.contains c then some (String.ofList [c]) else none

/-- The word that starts the declaration of an annotation type. -/
def annotationTypeMark : String := "@interface"

/-- A lexeme, with what follows it. -/
inductive Lexeme where
  | blank (rest : List Char)
  | comment (kind : Kind) (rest : List Char)
  | token (shape : Shape) (text : String) (parts : List Node) (rest : List Char)

/-- The string that starts at a byte offset, given what follows its first quote. -/
def stringLexeme? (offset : Nat) (cs : List Char) : Option Lexeme :=
  let (isBlock, opening, inner) :=
    match cs with
    | '"' :: '"' :: rest => (true, 3, rest)
    | _ => (false, 1, cs)
  let start := offset + opening
  (readString isBlock (inner.length + 1) start start [] [] inner).map fun (parts, rest) =>
    .token .string "" parts.reverse rest

/-- The symbol or annotation mark that a text starts with, as a lexeme. -/
def symbolLexeme? (cs : List Char) : Option Lexeme :=
  if annotationTypeMark.toList.isPrefixOf cs then
    some (.token .symbol annotationTypeMark [] (cs.drop annotationTypeMark.length))
  else
    (symbol? cs).map fun s => .token .symbol s [] (cs.drop s.length)

/-- The lexeme that starts at a byte offset. -/
def lexeme? (offset : Nat) : List Char → Option Lexeme
  | [] => none
  | '/' :: '/' :: cs => some (.comment .lineComment (cs.dropWhile (· ≠ '\n')))
  | '/' :: '*' :: cs => (afterBlockComment? cs).map (.comment .blockComment)
  | '"' :: cs => stringLexeme? offset cs
  | '\'' :: cs => (afterCharacter? true cs).map (.token .character "" [])
  | c :: cs =>
      if isBlank c then some (.blank (cs.dropWhile isBlank))
      else if Unicode.isIdentifierStart c then
        let word := c :: cs.takeWhile Unicode.isIdentifierPart
        some (.token .word (String.ofList word) [] (cs.dropWhile Unicode.isIdentifierPart))
      else if c.isDigit || (c = '.' && startsWith Char.isDigit cs) then
        some (.token .number "" [] (afterNumber (c :: cs)))
      else symbolLexeme? (c :: cs)

/-- A text as tokens and comments. -/
structure Lexed where
  /-- The tokens in their order. -/
  tokens : List Token := []
  /-- The comments in their order. -/
  comments : List Node := []

/-- Cuts the text from a byte offset on into lexemes; nothing if some part of it is none. -/
def lexFrom : Nat → Nat → List Char → Option Lexed
  | 0, _, _ => none
  | fuel + 1, offset, cs =>
      if cs.isEmpty then some {}
      else match lexeme? offset cs with
        | none => none
        | some (.blank rest) =>
            lexFrom fuel (offset + (Text.byteLength cs - Text.byteLength rest)) rest
        | some (.comment kind rest) =>
            let stop := offset + (Text.byteLength cs - Text.byteLength rest)
            (lexFrom fuel stop rest).map fun l =>
              { l with comments := .mk kind .none offset stop [] :: l.comments }
        | some (.token shape text parts rest) =>
            let stop := offset + (Text.byteLength cs - Text.byteLength rest)
            (lexFrom fuel stop rest).map fun l =>
              { l with tokens := ⟨shape, text, offset, stop, parts⟩ :: l.tokens }

/-- The mark that may stand at the beginning of a text to show its encoding. -/
def byteOrderMark : Char := Char.ofNat 0xFEFF

/-- The tokens and comments of a text; a byte order mark at its beginning is passed over. -/
def lex? (source : List Char) : Option Lexed :=
  match source with
  | [] => some {}
  | c :: cs =>
      if c = byteOrderMark then lexFrom (cs.length + 1) c.utf8Size cs
      else lexFrom (source.length + 1) 0 source

end Lexer

end BeanMapper.Java
