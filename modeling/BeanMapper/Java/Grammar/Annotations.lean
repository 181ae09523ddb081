import BeanMapper.Java.Grammar.Types

/-!
# Grammar — annotations and modifiers

    An annotation is a name after `@`, maybe with arguments: either one value,
    or pairs of a key and a value.  Modifiers are annotations and keywords in
    any order.
-/

namespace BeanMapper.Java.Grammar

open BeanMapper.Java.Parser

/-- Whether a key stands here with its value behind it. -/
def atPair : Parser Bool := do return isName (← ahead? 0) && isSymbol "=" (← ahead? 1)

/-- A key with its value. -/
def elementValuePair : Parser Node := span .elementValuePair do
  let key ← as .key identifier
  symbol "="
  return key ++ (← as .value (reachOne .elementValue))

/-- The arguments of an annotation. -/
def annotationArguments : Parser Node := span .annotationArgumentList do
  symbol "("
  if ← atPair then listUntil ")" (one elementValuePair)
  else if ← trySymbol ")" then return []
  else
    let value ← reach .elementValue
    symbol ")"
    return value

/-- An annotation. -/
def annotation : Parser Node := spanOf do
  symbol "@"
  let name ← as .name scopedName
  let arguments ← onlyIf (← atSymbol "(") (as .arguments annotationArguments)
  let kind := if arguments.isEmpty then .annotationMark else .annotationUse
  return (kind, name ++ arguments)

/-- The value of an element of an annotation. -/
def elementValue : Parser Node := do
  if ← atAnnotation then reachOne .annotationUse
  else if ← atSymbol "\x7b" then
    span .elementValueArrayInitializer do
      symbol "\x7b"
      looseListUntil "\x7d" (reach .elementValue)
  else reachOne .expression

/-- The keywords that may stand among the modifiers of any declaration. -/
def modifierWords : List String :=
  ["public", "protected", "private", "abstract", "static", "final", "strictfp", "native",
   "transient", "volatile"]

/-- Whether a token can follow the modifier `sealed`. -/
def followsSealed : Option Token → Bool
  | some t =>
      (t.shape == .word && (modifierWords.contains t.text || ["class", "interface"].contains t.text))
        || (t.shape == .symbol && t.text == "@")
  | none => false

/-- The number of tokens of the modifier that stands here, zero if there is none.  Where statements
    stand, `default` and `synchronized` are no modifiers. -/
def modifierLength (inBlock : Bool) : Parser Nat := do
  match ← ahead? 0 with
  | none => return 0
  | some t =>
      if t.shape != .word then return 0
      else if modifierWords.contains t.text then return 1
      else if ["default", "synchronized"].contains t.text then return if inBlock then 0 else 1
      else if t.text == "sealed" && followsSealed (← ahead? 1) then return 1
      else if t.text == "non" && isSymbol "-" (← ahead? 1) && isWord "sealed" (← ahead? 2) then
        return 3
      else return 0

/-- The kind of the node of a keyword. -/
def keywordKind (t : Option Token) : Kind :=
  if isWord "static" t then .staticKeyword
  else if isWord "final" t then .finalKeyword
  else .otherKeyword

/-- Whether a modifier stands here. -/
def atModifier (inBlock : Bool) : Parser Bool := do
  return (← atAnnotation) || (← modifierLength inBlock) != 0

/-- A keyword among modifiers. -/
def modifierKeyword (inBlock : Bool) : Parser Node := do
  let n ← modifierLength inBlock
  let kind := keywordKind (← next?)
  span kind do
    skip n
    return []

/-- Modifiers, one at least. -/
def modifiers (inBlock : Bool) : Parser Node := span .modifiers do
  many (atModifier inBlock) do
    if ← atAnnotation then reach .annotationUse else one (modifierKeyword inBlock)

/-- Modifiers, if there are any. -/
def modifiers? (inBlock : Bool) : Parser (List Node) := do
  onlyIf (← atModifier inBlock) (one (modifiers inBlock))

end BeanMapper.Java.Grammar
