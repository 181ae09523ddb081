import BeanMapper.Java.Grammar.Expressions

/-!
# Grammar — statements

    A statement is known by the word it starts with.  What starts with a type
    and a name declares variables; anything else is an expression, unless a
    colon makes its name a label.
-/

namespace BeanMapper.Java.Grammar

open BeanMapper.Java.Parser

/-- A statement. -/
def statement : Parser (List Node) := reach .statement

/-- Statements up to the closing brace, in braces. -/
def block : Parser Node := span .block do
  symbol "\x7b"
  let inner ← many (do return !(← atSymbol "\x7d")) statement
  symbol "\x7d"
  return inner

/-! ## Variables -/

/-- A variable with its initial value, if it has one. -/
def variableDeclarator : Parser Node := span .variableDeclarator do
  let name ← variableName
  if ← trySymbol "=" then
    let value ← as .value <|
      reachOne (if ← atSymbol "\x7b" then .arrayInitializer else .expression)
    return name ++ value
  else return name

/-- One variable or more. -/
def variableDeclarators : Parser (List Node) := separatedBy "," (as .declarator variableDeclarator)

/-- What follows the modifiers of a declaration of local variables. -/
def localVariableRest : Parser (List Node) := do
  let type ← as .type unannotatedType
  let declarators ← variableDeclarators
  symbol ";"
  return type ++ declarators

/-- A declaration of local variables. -/
def localVariables : Parser Node := span .localVariableDeclaration do
  return (← modifiers? true) ++ (← localVariableRest)

/-- The words that are no types where a statement may stand, though they can be names. -/
def contextualWords : List String := ["open", "module", "record", "with", "sealed", "yield"]

/-- Whether a token can start a type where a statement may stand. -/
def startsLocalType : Option Token → Bool
  | some t => !contextualWords.contains t.text
  | none => false

/-- Whether a declaration of local variables stands here. -/
def atLocalVariables : Parser Bool := canRead do
  let marks ← modifiers? true
  guard (!marks.isEmpty || startsLocalType (← next?))
  let _ ← unannotatedType
  guard (!(← atWord "instanceof"))
  let _ ← declaredName
  let t ← next?
  guard (["=", ";", ",", "["].any (isSymbol · t))

/-! ## Branches and loops -/

/-- What follows the word `if`. -/
def ifRest : Parser (List Node) := do
  let test ← parenthesized
  let yes ← statement
  let no ← onlyIf (← tryWord "else") statement
  return test :: yes ++ no

/-- Expressions with commas in between, maybe none, up to a symbol. -/
def expressionsUntil (close : String) : Parser (List Node) := listUntil close (reach .expression)

/-- Whether the parentheses of a loop hold a variable and what it runs through. -/
def atIteration : Parser Bool := canRead do
  let _ ← modifiers? true
  let _ ← unannotatedType
  let _ ← variableName
  symbol ":"

/-- What follows the word `for`. -/
def forRest : Parser (Kind × List Node) := do
  symbol "("
  if ← atIteration then
    let marks ← modifiers? true
    let type ← as .type unannotatedType
    let name ← variableName
    symbol ":"
    let value ← as .value (reachOne .expression)
    symbol ")"
    let body ← statement
    return (.enhancedForStatement, marks ++ type ++ name ++ value ++ body)
  else
    let start ← if ← atLocalVariables then one localVariables else expressionsUntil ";"
    let test ← onlyIf (!(← atSymbol ";")) (reach .expression)
    symbol ";"
    let update ← expressionsUntil ")"
    let body ← statement
    return (.forStatement, start ++ test ++ update ++ body)

/-- What follows the word `do`. -/
def doRest : Parser (List Node) := do
  let body ← statement
  word "while"
  let test ← parenthesized
  symbol ";"
  return body ++ [test]

/-! ## Exceptions -/

/-- A clause that catches exceptions. -/
def catchClause : Parser Node := span .catchClause do
  word "catch"
  symbol "("
  let parameter ← span .catchFormalParameter do
    let marks ← modifiers? true
    let types ← span .catchType (separatedBy "|" (one unannotatedType))
    return marks ++ types :: (← variableName)
  symbol ")"
  return [parameter, ← block]

/-- The clauses behind a block that is tried. -/
def handlers : Parser (List Node) := do
  let clauses ← many (atWord "catch") (one catchClause)
  let last ← onlyIf (← atWord "finally") <| one <| span .finallyClause do
    word "finally"
    one block
  return clauses ++ last

/-- Whether a resource is declared here, and not named only. -/
def atResourceDeclaration : Parser Bool := canRead do
  let _ ← modifiers? true
  let _ ← unannotatedType
  let _ ← variableName
  symbol "="

/-- A resource that is closed at the end. -/
def resource : Parser Node := span .resource do
  if ← atResourceDeclaration then
    let marks ← modifiers? true
    let type ← as .type unannotatedType
    let name ← variableName
    symbol "="
    return marks ++ type ++ name ++ (← as .value (reachOne .expression))
  else reach .expression

/-- Resources in parentheses; a semicolon may stand at the end. -/
def resources : Parser Node := span .resourceSpecification do
  symbol "("
  let items ← many (do return !(← atSymbol ")")) do
    let item ← resource
    guard ((← trySymbol ";") || (← atSymbol ")"))
    return [item]
  symbol ")"
  guard (!items.isEmpty)
  return items

/-- What follows the word `try`. -/
def tryRest : Parser (Kind × List Node) := do
  if ← atSymbol "(" then
    let specification ← resources
    let body ← as .body block
    return (.tryWithResourcesStatement, specification :: body ++ (← handlers))
  else
    let body ← as .body block
    let clauses ← handlers
    guard (!clauses.isEmpty)
    return (.tryStatement, body ++ clauses)

/-! ## Switches -/

/-- Whether a label of a switch stands here. -/
def atLabel : Parser Bool := do return (← atWord "case") || (← atWord "default")

/-- What a label compares with. -/
def labelItem : Parser (List Node) := do
  if ← tryWord "default" then return []
  else if ← atRecordPattern then one recordPattern
  else if ← atTypePattern then one (span .typePattern typedName)
  else reach .condition

/-- A condition that a label adds. -/
def labelGuard : Parser Node := span .guard do
  word "when"
  reach .condition

/-- A label of a switch, without what follows it. -/
def switchLabel : Parser Node := span .switchLabel do
  if ← tryWord "default" then return []
  else
    word "case"
    let items ← separatedBy "," labelItem
    return items ++ (← onlyIf (← atWord "when") (one labelGuard))

/-- What a rule of a switch does. -/
def ruleBody : Parser (List Node) := do
  if (← atSymbol "\x7b") || (← atWord "throw") then statement
  else one <| span .expressionStatement do
    let value ← reach .expression
    symbol ";"
    return value

/-- A rule of a switch, or a group of statements with its labels. -/
def switchItem : Parser Node := spanOf do
  let label ← switchLabel
  if ← trySymbol "->" then return (.switchRule, label :: (← ruleBody))
  else
    symbol ":"
    let labels ← many atLabel do
      let next ← switchLabel
      symbol ":"
      return [next]
    let inner ← many (do return !((← atLabel) || (← atSymbol "\x7d"))) statement
    return (.switchBlockStatementGroup, label :: labels ++ inner)

/-- A switch, as a statement or as an expression. -/
def switchExpression : Parser Node := span .switchExpression do
  word "switch"
  let test ← parenthesized
  let body ← span .switchBlock do
    symbol "\x7b"
    let items ← many atLabel (one switchItem)
    symbol "\x7d"
    return items
  return test :: (← as .body (return body))

/-! ## Statements by their first word -/

/-- An expression and a semicolon. -/
def expressionAndEnd : Parser (List Node) := do
  let value ← reach .expression
  symbol ";"
  return value

/-- A name, if one stands there, and a semicolon. -/
def targetAndEnd : Parser (List Node) := do
  let target ← onlyIf (← atName) (one identifier)
  symbol ";"
  return target

/-- What follows the word `assert`. -/
def assertRest : Parser (List Node) := do
  let test ← reach .expression
  let detail ← onlyIf (← trySymbol ":") (reach .expression)
  symbol ";"
  return test ++ detail

/-- What follows the word `return`. -/
def returnRest : Parser (List Node) := do
  let value ← onlyIf (!(← atSymbol ";")) (reach .expression)
  symbol ";"
  return value

/-- What follows a word that starts a statement, if the word starts one. -/
def afterWord? : String → Option (Parser (Kind × List Node))
  | "if" => some do return (.ifStatement, ← ifRest)
  | "while" => some do
      let test ← parenthesized
      return (.whileStatement, test :: (← statement))
  | "for" => some forRest
  | "do" => some do return (.doStatement, ← doRest)
  | "try" => some tryRest
  | "return" => some do return (.returnStatement, ← returnRest)
  | "throw" => some do return (.throwStatement, ← expressionAndEnd)
  | "break" => some do return (.breakStatement, ← targetAndEnd)
  | "continue" => some do return (.continueStatement, ← targetAndEnd)
  | "assert" => some do return (.assertStatement, ← assertRest)
  | "synchronized" => some do
      let lock ← parenthesized
      return (.synchronizedStatement, lock :: (← as .body block))
  | _ => none

/-- The symbols behind the word `yield` that make it a name. -/
def yieldOperators : List String := [";", ".", "[", "->", ":", "++", "--", "::"] ++ assignmentSymbols

/-- Whether the word `yield` starts a statement here and is not a name. -/
def atYield : Parser Bool := do
  let t ← ahead? 1
  return (← atWord "yield") && !yieldOperators.any (isSymbol · t)

/-- A statement that is no declaration. -/
def plainStatement : Parser (List Node) := do
  match ← next? with
  | none => failure
  | some t =>
      if t.shape == .word && t.text == "switch" then one switchExpression
      else if ← atYield then one <| span .yieldStatement do
        skip 1
        expressionAndEnd
      else if isName (some t) && isSymbol ":" (← ahead? 1) then one <| span .labeledStatement do
        let label ← identifier
        symbol ":"
        return label :: (← statement)
      else
        match if t.shape == .word then afterWord? t.text else none with
        | some rest => one <| spanOf do
            skip 1
            rest
        | none => one <| span .expressionStatement expressionAndEnd

end BeanMapper.Java.Grammar
