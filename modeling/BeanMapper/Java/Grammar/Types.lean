import BeanMapper.Java.Parser

/-!
# Grammar — names and types

    A name is a word that is not reserved, and names joined by dots are a
    scoped name.  A type is a primitive one or a name that may have type
    arguments in every segment, with any number of dimensions behind it.
-/

namespace BeanMapper.Java.Grammar

open BeanMapper.Java.Parser

/-- The words that are no names. -/
def reservedWords : List String :=
  ["abstract", "assert", "boolean", "break", "byte", "case", "catch", "char", "class", "continue",
   "default", "do", "double", "else", "enum", "extends", "false", "final", "finally", "float",
   "for", "if", "implements", "import", "instanceof", "int", "interface", "long", "native", "new",
   "null", "package", "private", "protected", "public", "return", "short", "static", "strictfp",
   "super", "switch", "synchronized", "this", "throw", "throws", "transient", "true", "try",
   "void", "volatile", "while"]

/-- Whether a token is a name. -/
def isName : Option Token → Bool
  | some t => t.shape == .word && !reservedWords.contains t.text
  | none => false

/-- Whether the next token is a name. -/
def atName : Parser Bool := do return isName (← next?)

/-- A name as a node of a kind. -/
def nameAs (kind : Kind) : Parser Node := do
  guard (← atName)
  leaf kind

/-- A name. -/
def identifier : Parser Node := nameAs .identifier

/-- A word that names a declaration right after its keyword or type, where reserved words may be
    names too. -/
def declaredName : Parser Node := do
  guard (((← next?).map (·.shape)) == some .word)
  leaf .identifier

/-- A name with the names that follow it after dots. -/
def scopedName : Parser Node := do
  grow (fun n => after n .scopedIdentifier do
    guard (isSymbol "." (← ahead? 0) && isName (← ahead? 1))
    symbol "."
    one identifier) (← identifier)

/-- Whether an annotation stands here. -/
def atAnnotation : Parser Bool := atSymbol "@"

/-- Any number of annotations. -/
def annotations : Parser (List Node) := many atAnnotation (reach .annotationUse)

/-- The words for primitive types, with the kinds of their nodes. -/
def primitiveWords : List (String × Kind) :=
  [("byte", .integralType), ("short", .integralType), ("int", .integralType),
   ("long", .integralType), ("char", .integralType), ("float", .floatingPointType),
   ("double", .floatingPointType), ("boolean", .booleanType), ("void", .voidType)]

/-- The kind of the primitive type that a token stands for. -/
def primitiveKind? : Option Token → Option Kind
  | some t => if t.shape == .word then primitiveWords.lookup t.text else none
  | none => none

/-- A wildcard as a type argument. -/
def wildcard : Parser Node := span .wildcard do
  let marks ← annotations
  symbol "?"
  if ← tryWord "extends" then return marks ++ (← reach .type)
  else if ← atWord "super" then
    let bound ← leaf .super
    return marks ++ bound :: (← reach .type)
  else return marks

/-- Whether a wildcard stands here, maybe behind annotations. -/
def atWildcard : Parser Bool := canRead do
  let _ ← annotations
  symbol "?"

/-- The type arguments between angle brackets; there may be none. -/
def typeArguments : Parser Node := span .typeArguments do
  symbol "<"
  listUntil ">" do
    if ← atWildcard then one wildcard else reach .type

/-- A name of a type with one more part: its type arguments, or the name of a member type. -/
def typeSuffix (n : Node) : Parser Node := do
  if ← atSymbol "<" then
    guard (n.kind != .genericType)
    after n .genericType (one typeArguments)
  else
    after n .scopedTypeIdentifier do
      symbol "."
      let marks ← annotations
      return marks ++ [← nameAs .typeIdentifier]

/-- A type without dimensions. -/
def simpleType : Parser Node := do
  match primitiveKind? (← next?) with
  | some kind => leaf kind
  | none => grow typeSuffix (← nameAs .typeIdentifier)

/-- Whether a pair of brackets stands here, maybe behind annotations. -/
def atDimension : Parser Bool := canRead do
  let _ ← annotations
  symbol "["
  symbol "]"

/-- One pair of brackets or more. -/
def dimensions : Parser Node := span .dimensions do
  guard (← atDimension)
  many atDimension do
    let marks ← annotations
    symbol "["
    symbol "]"
    return marks

/-- Any number of pairs of brackets. -/
def dimensions? : Parser (List Node) := do onlyIf (← atDimension) (one dimensions)

/-- A type without annotations in front. -/
def unannotatedType : Parser Node := do
  let element ← simpleType
  if ← atDimension then after element .arrayType (one dimensions) else return element

/-- A type. -/
def type : Parser Node := do
  if ← atAnnotation then
    span .annotatedType do return (← annotations) ++ [← unannotatedType]
  else unannotatedType

/-- A list of types. -/
def typeList : Parser Node := span .typeList (separatedBy "," (one type))

/-- A type parameter with its bounds. -/
def typeParameter : Parser Node := span .typeParameter do
  let marks ← annotations
  let name ← nameAs .typeIdentifier
  let bounds ← onlyIf (← atWord "extends") <| one <| span .typeBound do
    word "extends"
    separatedBy "&" (one type)
  return marks ++ name :: bounds

/-- Type parameters between angle brackets. -/
def typeParameters : Parser Node := span .typeParameters do
  symbol "<"
  let parameters ← separatedBy "," (one typeParameter)
  symbol ">"
  return parameters

/-- Type parameters, if they stand here. -/
def typeParameters? : Parser (List Node) := do onlyIf (← atSymbol "<") (one typeParameters)

end BeanMapper.Java.Grammar
