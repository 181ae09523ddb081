import BeanMapper.Text.Utf8

/-!
# Java syntax — the tree of a source text

    A node has a kind, a role in its parent, the byte range that it covers and
    its children in their order.  Children are the parts that have a kind of
    their own; keywords and punctuation are left out, except that modifiers
    keep their keywords, which are nodes without a name.
-/

namespace BeanMapper.Java

/-- The kinds of nodes. -/
inductive Kind where
  | program
  | lineComment
  | blockComment
  -- names and types
  | identifier
  | scopedIdentifier
  | typeIdentifier
  | scopedTypeIdentifier
  | genericType
  | arrayType
  | annotatedType
  | integralType
  | floatingPointType
  | booleanType
  | voidType
  | typeArguments
  | wildcard
  | dimensions
  | typeParameters
  | typeParameter
  | typeBound
  | typeList
  -- annotations and modifiers
  | modifiers
  | staticKeyword
  | finalKeyword
  | otherKeyword
  | annotationMark
  | annotationUse
  | annotationArgumentList
  | elementValuePair
  | elementValueArrayInitializer
  -- declarations
  | packageDeclaration
  | importDeclaration
  | asterisk
  | moduleDeclaration
  | moduleBody
  | moduleDirective
  | requiresModifier
  | classDeclaration
  | interfaceDeclaration
  | enumDeclaration
  | recordDeclaration
  | annotationTypeDeclaration
  | superclass
  | superInterfaces
  | extendsInterfaces
  | permits
  | classBody
  | interfaceBody
  | enumBody
  | enumBodyDeclarations
  | enumConstant
  | annotationTypeBody
  | annotationTypeElementDeclaration
  | fieldDeclaration
  | constantDeclaration
  | localVariableDeclaration
  | variableDeclarator
  | arrayInitializer
  | methodDeclaration
  | constructorDeclaration
  | compactConstructorDeclaration
  | constructorBody
  | explicitConstructorInvocation
  | staticInitializer
  | formalParameters
  | formalParameter
  | receiverParameter
  | spreadParameter
  | inferredParameters
  | throws
  -- statements
  | block
  | expressionStatement
  | labeledStatement
  | assertStatement
  | ifStatement
  | whileStatement
  | doStatement
  | forStatement
  | enhancedForStatement
  | breakStatement
  | continueStatement
  | returnStatement
  | yieldStatement
  | throwStatement
  | synchronizedStatement
  | tryStatement
  | tryWithResourcesStatement
  | resourceSpecification
  | resource
  | catchClause
  | catchFormalParameter
  | catchType
  | finallyClause
  | switchExpression
  | switchBlock
  | switchBlockStatementGroup
  | switchRule
  | switchLabel
  | guard
  | typePattern
  | recordPattern
  | recordPatternBody
  | recordPatternComponent
  | underscorePattern
  -- expressions
  | numberLiteral
  | characterLiteral
  | stringLiteral
  | stringFragment
  | escapeSequence
  | trueLiteral
  | falseLiteral
  | nullLiteral
  | this
  | super
  | parenthesizedExpression
  | assignmentExpression
  | binaryExpression
  | instanceofExpression
  | lambdaExpression
  | ternaryExpression
  | unaryExpression
  | updateExpression
  | castExpression
  | classLiteral
  | fieldAccess
  | arrayAccess
  | methodInvocation
  | argumentList
  | methodReference
  | templateExpression
  | objectCreationExpression
  | arrayCreationExpression
  | dimensionsExpr
deriving DecidableEq

namespace Kind

/-- Whether nodes of a kind count as nodes for a cursor; keywords do not. -/
def isNamed : Kind → Bool
  | staticKeyword => false
  | finalKeyword => false
  | otherKeyword => false
  | _ => true

/-- Whether nodes of a kind are comments. -/
def isComment : Kind → Bool
  | lineComment => true
  | blockComment => true
  | _ => false

/-- Whether nodes of a kind declare a named type. -/
def declaresType : Kind → Bool
  | classDeclaration => true
  | interfaceDeclaration => true
  | enumDeclaration => true
  | recordDeclaration => true
  | annotationTypeDeclaration => true
  | _ => false

/-- Whether nodes of a kind are bodies of types. -/
def isTypeBody : Kind → Bool
  | classBody => true
  | interfaceBody => true
  | enumBody => true
  | annotationTypeBody => true
  | _ => false

/-- Whether nodes of a kind are methods or constructors. -/
def isMethod : Kind → Bool
  | methodDeclaration => true
  | constructorDeclaration => true
  | compactConstructorDeclaration => true
  | _ => false

/-- Whether a body in a node of a kind belongs to a type without a name. -/
def ownsAnonymousBody : Kind → Bool
  | objectCreationExpression => true
  | enumConstant => true
  | _ => false

end Kind

/-- What a node is to its parent. -/
inductive Role where
  | none
  | name
  | type
  | body
  | parameters
  | declarator
  | arguments
  | key
  | value
deriving DecidableEq

/-- A node of a syntax tree. -/
inductive Node where
  | mk (kind : Kind) (role : Role) (start stop : Nat) (children : List Node)

namespace Node

/-- The kind of a node. -/
def kind : Node → Kind
  | mk kind _ _ _ _ => kind

/-- What a node is to its parent. -/
def role : Node → Role
  | mk _ role _ _ _ => role

/-- The offset of a node's first byte. -/
def start : Node → Nat
  | mk _ _ start _ _ => start

/-- The offset after a node's last byte. -/
def stop : Node → Nat
  | mk _ _ _ stop _ => stop

/-- The parts of a node in their order. -/
def children : Node → List Node
  | mk _ _ _ _ children => children

/-- The node in another role. -/
def inRole (role : Role) : Node → Node
  | mk kind _ start stop children => mk kind role start stop children

/-- The first child in a role. -/
def child? (n : Node) (role : Role) : Option Node := n.children.find? (·.role == role)

/-- The first child of a kind. -/
def childOfKind? (n : Node) (kind : Kind) : Option Node := n.children.find? (·.kind == kind)

/-- The source text that a node covers. -/
def text (source : List Char) (n : Node) : List Char := Text.slice source n.start n.stop

/-- The source text that a node covers. -/
def words (source : List Char) (n : Node) : String := String.ofList (n.text source)

/-- Whether a byte offset lies in a node. -/
def covers (offset : Nat) (n : Node) : Bool := n.start ≤ offset && offset < n.stop

mutual

/-- A node and all nodes below it, each one before what is below it. -/
def preorder : Node → List Node
  | mk kind role start stop children => mk kind role start stop children :: preorderAll children

/-- The given nodes and all nodes below them, each one before what is below it. -/
def preorderAll : List Node → List Node
  | [] => []
  | n :: ns => preorder n ++ preorderAll ns

end

end Node

end BeanMapper.Java
