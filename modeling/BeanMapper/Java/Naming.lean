import BeanMapper.Java.Syntax
import BeanMapper.Member

/-!
# Naming — the names of declared types and of the types around them

    A node is looked at together with the nodes above it.  A type that is a
    member of a named type has that type's name in front of its own; any other
    type, such as a local one or a member of an anonymous one, has its own
    name only.  An anonymous type is named by the offset of its body.
-/

namespace BeanMapper.Java

/-- A node with the nodes above it, nearest first. -/
structure Site where
  /-- The node. -/
  node : Node
  /-- The nodes above it, nearest first. -/
  above : List Node

/-- Whether a node is the body of a type without a name. -/
def isAnonymousBody (n : Node) (above : List Node) : Bool :=
  n.kind == .classBody && above.head?.any (·.kind.ownsAnonymousBody)

/-- The name that a declaration gives itself. -/
def ownName? (source : List Char) (n : Node) : Option String :=
  (n.child? .name).map (·.words source)

/-- The name of a type with the given name of its own, by the nodes above it; no name if an outer
    type has none. -/
def memberName? (source : List Char) : List Node → String → Option TypeName
  | body :: owner :: above, name =>
      if body.kind == .enumBodyDeclarations then
        match above with
        | outer :: above =>
            if owner.kind.isTypeBody && outer.kind.declaresType then
              ((ownName? source outer).bind (memberName? source above)).map (·.nested name)
            else some ⟨name⟩
        | [] => some ⟨name⟩
      else if body.kind.isTypeBody && owner.kind.declaresType then
        ((ownName? source owner).bind (memberName? source above)).map (·.nested name)
      else some ⟨name⟩
  | _, name => some ⟨name⟩
termination_by structural above => above

/-- The name of the type that a node declares, given the nodes above it. -/
def declaredName? (source : List Char) (n : Node) (above : List Node) : Option TypeName :=
  if isAnonymousBody n above then some (.anonymous n.start)
  else if n.kind.declaresType then (ownName? source n).bind (memberName? source above)
  else none

/-- The body that a member stands in with the nodes above the body, given the nodes above the
    member. -/
def bodyAround : List Node → List Node
  | [] => []
  | n :: above => if n.kind == .enumBodyDeclarations then above else n :: above

/-- The name of the type that a member belongs to directly, given the nodes above the member. -/
def enclosingName? (source : List Char) (above : List Node) : Option TypeName :=
  match bodyAround above with
  | [] => none
  | body :: above =>
      if isAnonymousBody body above then some (.anonymous body.start)
      else if body.kind.isTypeBody then
        match above with
        | [] => none
        | owner :: above => declaredName? source owner above
      else none

mutual

/-- The erased name of a type as it is written, without annotations in front. -/
def writtenType? (source : List Char) : Node → Option TypeName
  | .mk kind role start stop children =>
      if kind == .annotatedType then lastWrittenType? source children
      else some (.erased (Node.words source (.mk kind role start stop children)))

/-- The erased name of the last of some nodes. -/
def lastWrittenType? (source : List Char) : List Node → Option TypeName
  | [] => none
  | [n] => writtenType? source n
  | _ :: ns => lastWrittenType? source ns

end

/-- The return type of a method or constructor as it is written. -/
def returnTypeOf (source : List Char) (n : Node) : ReturnType :=
  if n.kind != .methodDeclaration then .missing
  else match n.child? .type with
    | none => .missing
    | some t =>
        if t.kind == .voidType then .void
        else match writtenType? source t with
          | some name => .type name
          | none => .missing

end BeanMapper.Java
