import BeanMapper.Java.Grammar.Annotations

/-!
# Grammar — parameters

    The parameters of a method are ordinary ones, a last one that takes any
    number of values, and in front of them maybe the receiver `this`, which is
    no parameter of a call.  Behind modifiers a bare `this` is the name of an
    ordinary parameter.
-/

namespace BeanMapper.Java.Grammar

open BeanMapper.Java.Parser

/-- The name of a variable with the dimensions behind it. -/
def variableName : Parser (List Node) := do
  let name ← as .name declaredName
  return name ++ (← dimensions?)

/-- Whether what follows a type makes it the type of the receiver. -/
def atReceiver (isMarked : Bool) : Parser Bool := do
  return (!isMarked && (← atWord "this")) || (isName (← ahead? 0) && isSymbol "." (← ahead? 1))

/-- The names of outer types before the receiver, and the receiver. -/
def receiverName : Parser (List Node) := do
  let outer ← many atName do
    let name ← identifier
    symbol "."
    return [name]
  guard (← atWord "this")
  return outer ++ [← leaf .this]

/-- The annotations and keywords of modifiers, without the node around them. -/
def bare (nodes : List Node) : List Node := nodes.flatMap Node.children

/-- Whether what follows a type makes the parameter take any number of values. -/
def atSpread : Parser Bool := canRead do
  let _ ← annotations
  symbol "..."

/-- A parameter. -/
def parameter : Parser Node := spanOf do
  let marks ← modifiers? false
  let type ← unannotatedType
  if ← atReceiver !marks.isEmpty then
    return (.receiverParameter, bare marks ++ type :: (← receiverName))
  else if ← atSpread then
    let more ← annotations
    symbol "..."
    let others ← annotations
    let declarator ← span .variableDeclarator variableName
    return (.spreadParameter, marks ++ type :: more ++ others ++ [declarator])
  else
    return (.formalParameter, marks ++ type.inRole .type :: (← variableName))

/-- Parameters in parentheses. -/
def formalParameters : Parser Node := span .formalParameters do
  symbol "("
  listUntil ")" (one parameter)

end BeanMapper.Java.Grammar
