import BeanMapper.Java.Grammar.Parameters
import BeanMapper.Java.Grammar.Patterns

/-!
# Grammar — expressions

    From the loosest to the tightest: lambda expressions, conditions, binary
    operators by level, prefix operators and casts, and operands with what is
    called, selected or indexed behind them.  An assignment belongs to the
    operand that takes the value and reaches as far as it can.
-/

namespace BeanMapper.Java.Grammar

open BeanMapper.Java.Parser

/-! ## Operators -/

/-- The levels of the binary operators that are one token, looser ones first. -/
def binaryLevels : List (String × Nat) :=
  [("||", 0), ("&&", 1), ("|", 2), ("^", 3), ("&", 4), ("==", 5), ("!=", 5), ("<", 6), ("<=", 6),
   ("<<", 7), ("+", 8), ("-", 8), ("*", 9), ("/", 9), ("%", 9)]

/-- The level of comparisons. -/
def comparisonLevel : Nat := 6

/-- The level of shifts. -/
def shiftLevel : Nat := 7

/-- The assignment operators that are one token. -/
def assignmentSymbols : List String :=
  ["=", "+=", "-=", "*=", "/=", "&=", "|=", "^=", "%=", "<<="]

/-- The number of closing angle brackets that stand here without gaps, and whether an equals sign
    follows them without a gap. -/
def angleRun : List Token → Nat × Bool
  | [] => (0, false)
  | t :: rest =>
      if !isSymbol ">" (some t) then (0, false)
      else match rest with
        | [] => (1, false)
        | u :: _ =>
            if u.start != t.stop then (1, false)
            else if isSymbol "=" (some u) then (1, true)
            else
              let (n, equals) := angleRun rest
              (n + 1, equals)

/-- An operator between two expressions. -/
inductive Operator where
  /-- An operator of a level, of so many tokens. -/
  | binary (level tokens : Nat)
  /-- An assignment operator of so many tokens. -/
  | assignment (tokens : Nat)
  /-- The test for a type. -/
  | instanceOf
deriving DecidableEq

/-- The operator that tokens start with. -/
def operatorOf : List Token → Option Operator
  | [] => none
  | t :: rest =>
      if isWord "instanceof" (some t) then some .instanceOf
      else if t.shape != .symbol then none
      else if t.text == ">" then
        match angleRun (t :: rest) with
        | (1, false) => some (.binary comparisonLevel 1)
        | (1, true) => some (.binary comparisonLevel 2)
        | (n, false) => some (.binary shiftLevel n)
        | (n, true) => some (.assignment (n + 1))
      else if assignmentSymbols.contains t.text then some (.assignment 1)
      else (binaryLevels.lookup t.text).map fun level => .binary level 1

/-- The operator that stands here. -/
def operator? : Parser (Option Operator) := fun _ r => some (operatorOf r.rest, r)

/-! ## Looking ahead -/

/-- What follows the parenthesis that closes the one that tokens start with. -/
def afterParentheses : Nat → List Token → List Token
  | _, [] => []
  | depth, t :: rest =>
      if isSymbol "(" (some t) then afterParentheses (depth + 1) rest
      else if isSymbol ")" (some t) then
        if depth ≤ 1 then rest else afterParentheses (depth - 1) rest
      else afterParentheses depth rest

/-- Whether tokens start with the parameters of a lambda expression. -/
def startsLambda (tokens : List Token) : Bool :=
  if isSymbol "(" tokens[0]? then isSymbol "->" (afterParentheses 0 tokens)[0]?
  else isName tokens[0]? && isSymbol "->" tokens[1]?

/-- Whether a lambda expression stands here. -/
def atLambda : Parser Bool := fun _ r => some (startsLambda r.rest, r)

/-- The words that an operand can start with, besides names and primitive types. -/
def operandWords : List String := ["this", "super", "new", "true", "false", "null", "switch"]

/-- Whether a token can start what is cast to a type; behind a primitive type it may be a sign. -/
def startsOperand (isPrimitive : Bool) : Option Token → Bool
  | none => false
  | some t =>
      match t.shape with
      | .word =>
          operandWords.contains t.text || isName (some t) || (primitiveKind? (some t)).isSome
      | .symbol =>
          ["(", "!", "~"].contains t.text
            || (isPrimitive && ["+", "-", "++", "--"].contains t.text)
      | _ => true

/-- Whether a cast stands here. -/
def atCast : Parser Bool := canRead do
  symbol "("
  let isPrimitive := (primitiveKind? (← ahead? 0)).isSome && isSymbol ")" (← ahead? 1)
  let _ ← separatedBy "&" (one type)
  symbol ")"
  guard (startsOperand isPrimitive (← next?))

/-- Whether a type stands here that cannot be an expression, in front of a method reference or the
    name of its class. -/
def atTypeOperand : Parser Bool := canRead do
  let t ← unannotatedType
  guard (t.kind == .arrayType || t.preorder.any (·.kind == .typeArguments))
  guard ((← atSymbol "::") || (isSymbol "." (← ahead? 0) && isWord "class" (← ahead? 1)))

/-! ## Operands -/

/-- Arguments in parentheses. -/
def argumentList : Parser Node := span .argumentList do
  symbol "("
  listUntil ")" (reach .expression)

/-- An expression in parentheses. -/
def parenthesized : Parser Node := span .parenthesizedExpression do
  symbol "("
  let inner ← reach .expression
  symbol ")"
  return inner

/-- Whether the size of a dimension stands here. -/
def atDimensionSize : Parser Bool := canRead do
  let _ ← annotations
  symbol "["
  guard (!(← atSymbol "]"))

/-- The size of a dimension. -/
def dimensionSize : Parser Node := span .dimensionsExpr do
  let marks ← annotations
  symbol "["
  let size ← reach .expression
  symbol "]"
  return marks ++ size

/-- What follows the type of a new array. -/
def arrayCreationRest : Parser (List Node) := do
  if ← atDimensionSize then
    let sizes ← many atDimensionSize (one dimensionSize)
    return sizes ++ (← dimensions?)
  else
    let dims ← dimensions
    return dims :: (← as .value (reachOne .arrayInitializer))

/-- A new object or array, from the word `new` on. -/
def creation : Parser (Kind × List Node) := do
  word "new"
  let marks ← annotations
  let typeArgs ← onlyIf (← atSymbol "<") (one typeArguments)
  let more ← annotations
  let type ← as .type simpleType
  let before := marks ++ typeArgs ++ more ++ type
  if ← atSymbol "(" then
    let arguments ← as .arguments argumentList
    let body ← onlyIf (← atSymbol "\x7b") (reach .classBody)
    return (.objectCreationExpression, before ++ arguments ++ body)
  else return (.arrayCreationExpression, before ++ (← arrayCreationRest))

/-- A member that is selected or called, after the dot. -/
def memberRest : Parser (Kind × List Node) := do
  let typeArgs ← onlyIf (← atSymbol "<") (one typeArguments)
  let name ← as .name identifier
  if ← atSymbol "(" then
    return (.methodInvocation, typeArgs ++ name ++ (← as .arguments argumentList))
  else
    guard typeArgs.isEmpty
    return (.fieldAccess, name)

/-- What is selected from an operand after a dot. -/
def selection (n : Node) : Parser Node := do
  let what ← ahead? 1
  symbol "."
  if isWord "new" what then afterOf n creation
  else if isWord "class" what then after n .classLiteral do
    word "class"
    return []
  else if isWord "this" what then after n .fieldAccess (one (leaf .this))
  else if isWord "super" what then afterOf n do
    let parent ← leaf .super
    if ← trySymbol "." then
      let (kind, rest) ← memberRest
      return (kind, parent :: rest)
    else
      guard (← atSymbol "::")
      return (.fieldAccess, [parent])
  else if what.any (·.shape == .string) then
    after n .templateExpression do
      let t ← token
      return [.mk .stringLiteral .none t.start t.stop t.parts]
  else afterOf n memberRest

/-- A reference to a method of an operand. -/
def methodReference (n : Node) : Parser Node := after n .methodReference do
  symbol "::"
  let typeArgs ← onlyIf (← atSymbol "<") (one typeArguments)
  if ← tryWord "new" then return typeArgs
  else return typeArgs ++ [← identifier]

/-- An operand with one more part behind it. -/
def operandSuffix (n : Node) : Parser Node := do
  if ← atSymbol "." then selection n
  else if ← atSymbol "::" then methodReference n
  else after n .arrayAccess do
    symbol "["
    let index ← reach .expression
    symbol "]"
    return index

/-- The kinds of the words that are operands of their own. -/
def wordOperands : List (String × Kind) :=
  [("true", .trueLiteral), ("false", .falseLiteral), ("null", .nullLiteral), ("this", .this)]

/-- An operand that starts with a word. -/
def wordOperand (t : Token) : Parser Node := do
  match wordOperands.lookup t.text with
  | some kind => leaf kind
  | none =>
      if t.text == "new" then spanOf creation
      else if t.text == "switch" then reachOne .switchExpression
      else if t.text == "super" then
        let parent ← leaf .super
        guard ((← atSymbol ".") || (← atSymbol "::"))
        return parent
      else if (primitiveKind? (some t)).isSome then
        let type ← unannotatedType
        guard ((← atSymbol ".") || (← atSymbol "::"))
        return type
      else if ← atTypeOperand then unannotatedType
      else if isSymbol "(" (← ahead? 1) then
        span .methodInvocation do
          let name ← as .name identifier
          return name ++ (← as .arguments argumentList)
      else identifier

/-- An operand without anything behind it. -/
def primary : Parser Node := do
  match ← next? with
  | none => failure
  | some t =>
      match t.shape with
      | .number => leaf .numberLiteral
      | .character => leaf .characterLiteral
      | .string =>
          let t ← token
          return .mk .stringLiteral .none t.start t.stop t.parts
      | .word => wordOperand t
      | .symbol => parenthesized

/-- An operand with everything that is behind it. -/
def operand : Parser Node := do grow operandSuffix (← primary)

/-- A type cast. -/
def cast : Parser Node := span .castExpression do
  symbol "("
  let types ← separatedBy "&" (as .type type)
  symbol ")"
  let value ← reach (if ← atLambda then .expression else .unary)
  return types ++ value

/-- Whether a value can be assigned to an expression. -/
def isAssignable (n : Node) : Bool := [.identifier, .fieldAccess, .arrayAccess].contains n.kind

/-- An operand with what changes its value: a sign of counting behind it, or an assignment. -/
def changedOperand : Parser Node := do
  let value ← operand
  if (← atSymbol "++") || (← atSymbol "--") then
    after value .updateExpression do
      skip 1
      return []
  else
    match ← operator? with
    | some (.assignment tokens) =>
        guard (isAssignable value)
        after value .assignmentExpression do
          skip tokens
          reach .expression
    | _ => return value

/-- An operand with the operators and casts in front of it. -/
def unary : Parser Node := do
  match ← next? with
  | none => failure
  | some t =>
      if t.shape == .symbol && ["+", "-", "!", "~"].contains t.text then
        span .unaryExpression do
          skip 1
          reach .unary
      else if t.shape == .symbol && ["++", "--"].contains t.text then
        span .updateExpression do
          skip 1
          reach .unary
      else if ← atCast then cast
      else changedOperand

/-! ## Operators and lambda expressions -/

/-- What follows the word `instanceof`. -/
def tested : Parser (List Node) := do
  let _ ← tryWord "final"
  if ← atRecordPattern then one recordPattern
  else
    let type ← reach .type
    let name ← onlyIf (← atName) (as .name identifier)
    return type ++ name

/-- An expression with one more operator of a level, and its right side. -/
def binarySuffix (level : Nat) (left : Node) : Parser Node := do
  match ← operator? with
  | some (.binary found tokens) =>
      guard (level ≤ found)
      after left .binaryExpression do
        skip tokens
        reach (.operands (found + 1))
  | some .instanceOf =>
      guard (level ≤ comparisonLevel)
      after left .instanceofExpression do
        skip 1
        tested
  | _ => failure

/-- An expression whose operators are of a level or of tighter ones. -/
def operands (level : Nat) : Parser Node := do
  grow (binarySuffix level) (← reachOne .unary)

/-- An expression that is no lambda expression. -/
def condition : Parser Node := do
  let test ← reachOne (.operands 0)
  if ← atSymbol "?" then
    after test .ternaryExpression do
      symbol "?"
      let yes ← reach .expression
      symbol ":"
      let no ← reach (if ← atLambda then .expression else .condition)
      return yes ++ no
  else return test

/-- The parameters of a lambda expression. -/
def lambdaParameters : Parser Node := do
  if ← atName then identifier
  else if isName (← ahead? 1) && (isSymbol "," (← ahead? 2) || isSymbol ")" (← ahead? 2)) then
    span .inferredParameters do
      symbol "("
      listUntil ")" (one identifier)
  else formalParameters

/-- A lambda expression. -/
def lambda : Parser Node := span .lambdaExpression do
  let parameters ← as .parameters lambdaParameters
  symbol "->"
  let body ← as .body (reachOne (if ← atSymbol "\x7b" then .block else .expression))
  return parameters ++ body

/-- An expression. -/
def expression : Parser Node := do
  if ← atLambda then lambda else reachOne .condition

/-- Values in braces for the elements of an array. -/
def arrayInitializer : Parser Node := span .arrayInitializer do
  symbol "\x7b"
  looseListUntil "\x7d" do
    if ← atSymbol "\x7b" then reach .arrayInitializer else reach .expression

end BeanMapper.Java.Grammar
