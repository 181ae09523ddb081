import BeanMapper.Java.Grammar.Statements

/-!
# Grammar — declarations

    Types with their bodies and members, and what stands at the top of a file:
    packages, imports and modules.  A member is known by what follows its
    modifiers: the keyword of a type, a name with parentheses or a block, or a
    type and a name.
-/

namespace BeanMapper.Java.Grammar

open BeanMapper.Java.Parser

/-- What bodies of types allow. -/
inductive BodySort where
  | classMembers
  | interfaceMembers
  | annotationMembers
deriving DecidableEq

/-- The exceptions that a method may throw, if it says so. -/
def throws? : Parser (List Node) := do
  onlyIf (← atWord "throws") <| one <| span .throws do
    word "throws"
    separatedBy "," (one type)

/-- A list of types behind a word, if the word stands there. -/
def typesAfter? (w : String) (kind : Kind) : Parser (List Node) := do
  onlyIf (← atWord w) <| one <| span kind do
    word w
    one typeList

/-! ## Methods -/

/-- What follows the name of a method, after its parameters. -/
def methodRest : Parser (List Node) := do
  let parameters ← as .parameters formalParameters
  let dims ← dimensions?
  let thrown ← throws?
  let body ← if ← trySymbol ";" then pure [] else as .body block
  return parameters ++ dims ++ thrown ++ body

/-- What follows the modifiers and type parameters of a method. -/
def methodFromType : Parser (List Node) := do
  let type ← as .type unannotatedType
  let name ← as .name declaredName
  return type ++ name ++ (← methodRest)

/-- Whether the constructor of this class or of the one above is called here. -/
def atConstructorCall : Parser Bool := canRead do
  let _ ← onlyIf (← atSymbol "<") (one typeArguments)
  guard ((← tryWord "this") || (← tryWord "super"))
  symbol "("

/-- The object that the constructor of the class above is called on, with the dot. -/
def outerObject : Parser Node := do
  let object ← operand
  symbol "."
  return object

/-- Whether the constructor of the class above is called here on an outer object. -/
def atOuterConstructorCall : Parser Bool := canRead do
  let _ ← outerObject
  let _ ← onlyIf (← atSymbol "<") (one typeArguments)
  word "super"
  symbol "("

/-- A call of another constructor. -/
def constructorCall : Parser Node := span .explicitConstructorInvocation do
  let outer ← onlyIf (!(← atConstructorCall)) (one outerObject)
  let typeArgs ← onlyIf (← atSymbol "<") (one typeArguments)
  let callee ← leaf (if ← atWord "this" then .this else .super)
  let arguments ← as .arguments argumentList
  symbol ";"
  return outer ++ typeArgs ++ callee :: arguments

/-- The body of a constructor. -/
def constructorBody : Parser Node := span .constructorBody do
  symbol "\x7b"
  let callsFirst := (← atConstructorCall) || (← atOuterConstructorCall)
  let call ← onlyIf callsFirst (one constructorCall)
  let inner ← many (do return !(← atSymbol "\x7d")) statement
  symbol "\x7d"
  return call ++ inner

/-- What follows the modifiers and type parameters of a constructor. -/
def constructorFromName : Parser (List Node) := do
  let name ← as .name identifier
  let parameters ← as .parameters formalParameters
  let thrown ← throws?
  return name ++ parameters ++ thrown ++ (← as .body constructorBody)

/-! ## Types -/

/-- What follows the word `class`. -/
def classRest : Parser (List Node) := do
  let name ← as .name declaredName
  let parameters ← typeParameters?
  let parent ← onlyIf (← atWord "extends") <| one <| span .superclass do
    word "extends"
    reach .type
  let interfaces ← typesAfter? "implements" .superInterfaces
  let permitted ← typesAfter? "permits" .permits
  let body ← as .body (reachOne .classBody)
  return name ++ parameters ++ parent ++ interfaces ++ permitted ++ body

/-- A constant of an enumeration. -/
def enumConstant : Parser Node := span .enumConstant do
  let marks ← modifiers? false
  let name ← as .name identifier
  let arguments ← onlyIf (← atSymbol "(") (as .arguments argumentList)
  let body ← onlyIf (← atSymbol "\x7b") (as .body (reachOne .classBody))
  return marks ++ name ++ arguments ++ body

/-- Whether the constants of an enumeration end here. -/
def atEndOfConstants : Parser Bool := do return (← atSymbol ";") || (← atSymbol "\x7d")

/-- The constants of an enumeration, up to a semicolon or the closing brace. -/
def enumConstants : Parser (List Node) := do
  let isBare ← trySymbol ","
  onlyIf (!isBare) <| many (do return !(← atEndOfConstants)) do
    let constant ← enumConstant
    guard ((← trySymbol ",") || (← atEndOfConstants))
    return [constant]

/-- Whether a record is declared here. -/
def atRecord : Parser Bool := do
  let t ← ahead? 2
  return (← atWord "record") && ((← ahead? 1).any (·.shape == .word))
    && (isSymbol "(" t || isSymbol "<" t)

/-- What follows the word `record`. -/
def recordRest : Parser (List Node) := do
  let name ← as .name declaredName
  let parameters ← typeParameters?
  let components ← as .parameters formalParameters
  let interfaces ← typesAfter? "implements" .superInterfaces
  return name ++ parameters ++ components ++ interfaces ++ (← as .body (reachOne .classBody))

/-- Whether the declaration of a type stands here, behind its modifiers. -/
def atTypeWord : Parser Bool := do
  return (← atWord "class") || (← atWord "interface") || (← atWord "enum")
    || (← atSymbol Lexer.annotationTypeMark) || (← atRecord)

/-- The members in a body, up to the closing brace, given how a member is read. -/
def membersInBraces (kind : Kind) (member : Parser (List Node)) : Parser Node := span kind do
  symbol "\x7b"
  let inner ← many (do return !(← atSymbol "\x7d")) member
  symbol "\x7d"
  return inner

/-- What follows the word `interface`, given how a member is read. -/
def interfaceRest (member : Parser (List Node)) : Parser (List Node) := do
  let name ← as .name declaredName
  let parameters ← typeParameters?
  let parents ← typesAfter? "extends" .extendsInterfaces
  let permitted ← typesAfter? "permits" .permits
  let body ← as .body (membersInBraces .interfaceBody member)
  return name ++ parameters ++ parents ++ permitted ++ body

/-- What follows the word `enum`, given how a member is read. -/
def enumRest (member : Parser (List Node)) : Parser (List Node) := do
  let name ← as .name declaredName
  let interfaces ← typesAfter? "implements" .superInterfaces
  let body ← span .enumBody do
    symbol "\x7b"
    let constants ← enumConstants
    let more ← onlyIf (← atSymbol ";") <| one <| span .enumBodyDeclarations do
      symbol ";"
      many (do return !(← atSymbol "\x7d")) member
    symbol "\x7d"
    return constants ++ more
  return name ++ interfaces ++ [body.inRole .body]

/-- What follows the mark of an annotation type, given how a member is read. -/
def annotationTypeRest (member : Parser (List Node)) : Parser (List Node) := do
  let name ← as .name declaredName
  return name ++ (← as .body (membersInBraces .annotationTypeBody member))

/-- A type from its keyword on, given how members are read. -/
def typeFromWord (member : BodySort → Parser (List Node)) : Parser (Kind × List Node) := do
  if ← tryWord "class" then return (.classDeclaration, ← classRest)
  else if ← tryWord "interface" then
    return (.interfaceDeclaration, ← interfaceRest (member .interfaceMembers))
  else if ← tryWord "enum" then return (.enumDeclaration, ← enumRest (member .classMembers))
  else if ← trySymbol Lexer.annotationTypeMark then
    return (.annotationTypeDeclaration, ← annotationTypeRest (member .annotationMembers))
  else
    word "record"
    return (.recordDeclaration, ← recordRest)

/-! ## Members -/

/-- What follows the modifiers and the type of fields. -/
def fieldRest : Parser (List Node) := do
  let declarators ← variableDeclarators
  symbol ";"
  return declarators

/-- What follows the name of an element of an annotation. -/
def elementRest : Parser (List Node) := do
  symbol "("
  symbol ")"
  let dims ← dimensions?
  let value ← onlyIf (← tryWord "default") (as .value (reachOne .elementValue))
  symbol ";"
  return dims ++ value

/-- What follows the modifiers of a field, method or element. -/
def typedMember (sort : BodySort) : Parser (Kind × List Node) := do
  guard (!(← atWord "record"))
  let type ← as .type unannotatedType
  if isSymbol "(" (← ahead? 1) then
    let name ← as .name declaredName
    if sort == .annotationMembers then
      return (.annotationTypeElementDeclaration, type ++ name ++ (← elementRest))
    else return (.methodDeclaration, type ++ name ++ (← methodRest))
  else
    let kind := if sort == .classMembers then .fieldDeclaration else .constantDeclaration
    return (kind, type ++ (← fieldRest))

/-- What follows the modifiers of a member with type parameters. -/
def genericMember (sort : BodySort) : Parser (Kind × List Node) := do
  guard (sort != .annotationMembers)
  let parameters ← typeParameters
  let marks ← annotations
  if sort == .classMembers && isSymbol "(" (← ahead? 1) then
    return (.constructorDeclaration, parameters :: (← constructorFromName))
  else return (.methodDeclaration, parameters :: marks ++ (← methodFromType))

/-- A member of a type, from its modifiers on; `fuel` bounds the types inside types. -/
def memberUpTo : Nat → BodySort → Parser (List Node)
  | 0, _ => failure
  | fuel + 1, sort => do
      if ← trySymbol ";" then return []
      else if sort == .classMembers && (← atSymbol "\x7b") then one block
      else if sort == .classMembers && (← atWord "static") && isSymbol "\x7b" (← ahead? 1) then
        one <| span .staticInitializer do
          skip 1
          one block
      else one <| spanOf do
        let marks ← modifiers? false
        let (kind, rest) ←
          if ← atTypeWord then typeFromWord (memberUpTo fuel)
          else if ← atSymbol "<" then genericMember sort
          else if sort == .classMembers && isSymbol "(" (← ahead? 1) then do
            pure (.constructorDeclaration, ← constructorFromName)
          else if sort == .classMembers && isSymbol "\x7b" (← ahead? 1) then do
            let name ← as .name identifier
            pure (.compactConstructorDeclaration, name ++ (← as .body block))
          else typedMember sort
        return (kind, marks ++ rest)

/-- A member of a type. -/
def member (sort : BodySort) : Parser (List Node) := fun goals r =>
  memberUpTo (r.rest.length + 1) sort goals r

/-- The body of a class. -/
def classBody : Parser Node := membersInBraces .classBody (member .classMembers)

/-! ## Files -/

/-- A scoped name and a semicolon. -/
def nameAndEnd : Parser (List Node) := do
  let name ← scopedName
  symbol ";"
  return [name]

/-- What follows the word `import`. -/
def importRest : Parser (List Node) := do
  let _ ← tryWord "static"
  let name ← scopedName
  let all ← onlyIf (← trySymbol ".") do
    guard (← atSymbol "*")
    one (leaf .asterisk)
  symbol ";"
  return name :: all

/-- The words after which a module names others, with the word before the list of those. -/
def directiveWords : List (String × String) :=
  [("exports", "to"), ("opens", "to"), ("uses", ""), ("provides", "with")]

/-- A directive of a module. -/
def moduleDirective : Parser Node := span .moduleDirective do
  if ← tryWord "requires" then
    let marks ← many (do return (← atWord "static") || (← atWord "transitive"))
      (one (leaf .requiresModifier))
    return marks ++ (← nameAndEnd)
  else
    let t ← token
    match if t.shape == .word then directiveWords.lookup t.text else none with
    | none => failure
    | some joint =>
        let name ← scopedName
        let more ← onlyIf (← tryWord joint) (separatedBy "," (one scopedName))
        symbol ";"
        return name :: more

/-- A module, behind its annotations. -/
def moduleRest : Parser (List Node) := do
  let _ ← tryWord "open"
  word "module"
  let name ← as .name scopedName
  return name ++ (← as .body (membersInBraces .moduleBody (one moduleDirective)))

/-- Whether a module stands here, behind its annotations. -/
def atModule : Parser Bool := canRead do
  let _ ← tryWord "open"
  word "module"
  let _ ← scopedName
  symbol "\x7b"

/-- The head of a file: a package, an import or a module. -/
def fileDeclaration : Parser Node := spanOf do
  if ← tryWord "import" then return (.importDeclaration, ← importRest)
  else
    let marks ← annotations
    if ← tryWord "package" then return (.packageDeclaration, marks ++ (← nameAndEnd))
    else return (.moduleDeclaration, marks ++ (← moduleRest))

/-- Whether the head of a file stands here. -/
def atFileDeclaration : Parser Bool := canRead do
  if ← atWord "import" then return
  let _ ← annotations
  guard ((← atWord "package") || (← atModule))

/-- Whether a method stands here, outside of any type. -/
def atMethod : Parser Bool := canRead do
  let _ ← modifiers? true
  if ← atSymbol "<" then return
  let _ ← typedName
  symbol "("

/-- A method outside of any type. -/
def method : Parser Node := span .methodDeclaration do
  let marks ← modifiers? false
  let parameters ← typeParameters?
  let more ← annotations
  return marks ++ parameters ++ more ++ (← methodFromType)

/-- Whether the declaration of a type stands here. -/
def atTypeDeclaration : Parser Bool := canRead do
  let _ ← modifiers? true
  guard (← atTypeWord)

/-- A type declared where a statement may stand. -/
def typeDeclaration : Parser Node := spanOf do
  let marks ← modifiers? true
  let (kind, rest) ← typeFromWord member
  return (kind, marks ++ rest)

/-- What may stand where a statement may stand; methods only at the top of a file. -/
def anyStatement (isTop : Bool) : Parser (List Node) := do
  if ← trySymbol ";" then return []
  else if ← atSymbol "\x7b" then one block
  else if ← atFileDeclaration then one fileDeclaration
  else if ← atTypeDeclaration then one typeDeclaration
  else if isTop && (← atMethod) then one method
  else if (← atModifier true) || (← atLocalVariables) then one localVariables
  else plainStatement

end BeanMapper.Java.Grammar
