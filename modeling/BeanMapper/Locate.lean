import BeanMapper.Declaration

/-!
# Locating — from a cursor to the two types of a mapping

    The cursor stands in a node of a syntax tree; the nearest method at or
    above that node gives the target by its return type and the source by the
    type that declares it.  The tree is known only through `SyntaxView`: which
    node an offset lies in, a node's parent, and whether a node is a method.
-/

namespace BeanMapper

/-- A method as the cursor finds it. -/
structure EnclosingMethod where
  /-- The name of the method. -/
  name : String
  /-- Its return type as declared. -/
  returnType : ReturnType
  /-- The type that declares the method directly. -/
  enclosingType : Option TypeName
deriving DecidableEq

/-- What locating needs to know of a syntax tree. -/
structure SyntaxView (Node : Type) where
  /-- The innermost node at a byte offset. -/
  nodeAt : Nat → Option Node
  /-- The node directly above. -/
  parent? : Node → Option Node
  /-- The method that a node declares, if it declares one. -/
  method? : Node → Option EnclosingMethod

/-- Why there is nothing to generate at a cursor. -/
inductive Abort where
  /-- The cursor is in no method. -/
  | noMethodContext
  /-- The method returns nothing. -/
  | voidOrMissingReturnType
  /-- The declaration of one of the two types is not known. -/
  | unresolvableType
deriving DecidableEq

/-- What the user is told about an abort. -/
def Abort.userMessage : Abort → String
  | .noMethodContext => "Please put the cursor into method body"
  | .voidOrMissingReturnType => "The enclosing method has no return type to map into"
  | .unresolvableType =>
      "Cannot resolve the declaration of the return type or the enclosing type"

/-- The method at a cursor and the two types it relates. -/
structure Context where
  /-- The name of the method. -/
  methodName : String
  /-- The type that is built. -/
  target : TypeName
  /-- The type whose fields are taken. -/
  source : TypeName
deriving DecidableEq

/-- The nearest method at or above a node, at most `depth` parents away. -/
def SyntaxView.enclosingMethod? {Node : Type} (view : SyntaxView Node) :
    Nat → Node → Option EnclosingMethod
  | 0, node => view.method? node
  | depth + 1, node =>
      match view.method? node with
      | some method => some method
      | none => (view.parent? node).bind (view.enclosingMethod? depth)

/-- The two types of a method, each by the name that its declaration has. -/
def EnclosingMethod.context (method : EnclosingMethod)
    (declarationOf : TypeName → Option Declaration) : Except Abort Context :=
  match method.returnType.asType? with
  | none => .error .voidOrMissingReturnType
  | some returned =>
      match declarationOf returned, method.enclosingType.bind declarationOf with
      | some target, some source => .ok ⟨method.name, target.typeName, source.typeName⟩
      | _, _ => .error .unresolvableType

/-- The method and the two types at a byte offset. -/
def locate {Node : Type} (view : SyntaxView Node) (declarationOf : TypeName → Option Declaration)
    (maxDepth offset : Nat) : Except Abort Context :=
  match (view.nodeAt offset).bind (view.enclosingMethod? maxDepth) with
  | none => .error .noMethodContext
  | some method => method.context declarationOf

end BeanMapper
