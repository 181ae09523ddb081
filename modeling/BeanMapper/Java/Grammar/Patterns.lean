import BeanMapper.Java.Grammar.Types

/-!
# Grammar — patterns

    A pattern is a type with a name for the value, or a record pattern, which
    has patterns for the components in parentheses.
-/

namespace BeanMapper.Java.Grammar

open BeanMapper.Java.Parser

/-- A type with a name for the value. -/
def typedName : Parser (List Node) := do
  let type ← unannotatedType
  return [type, ← identifier]

/-- A pattern for a component of a record, given how record patterns are read. -/
def patternComponent (nested : Parser Node) : Parser Node := do
  if isWord "_" (← ahead? 0) && !isName (← ahead? 1) then
    span .recordPatternComponent (one (leaf .underscorePattern))
  else if ← canRead typedName then span .recordPatternComponent typedName
  else nested

/-- A record pattern with at most `depth` levels of record patterns inside. -/
def recordPatternUpTo : Nat → Parser Node
  | 0 => failure
  | depth + 1 => span .recordPattern do
      let type ← simpleType
      let body ← span .recordPatternBody do
        symbol "("
        listUntil ")" (one (patternComponent (recordPatternUpTo depth)))
      return [type, body]

/-- A record pattern. -/
def recordPattern : Parser Node := fun goals r => recordPatternUpTo r.rest.length goals r

/-- Whether a record pattern stands here. -/
def atRecordPattern : Parser Bool := canRead recordPattern

/-- Whether a type with a name stands here. -/
def atTypePattern : Parser Bool := canRead typedName

end BeanMapper.Java.Grammar
