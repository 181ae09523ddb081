import BeanMapper.Java.Naming
import BeanMapper.Locate

/-!
# Cursors — the node at an offset and the method around it

    A cursor stands in the smallest node that covers its offset, or in the
    root where no node does; at the very end of the text it belongs to the
    last byte.  From a node the method around it is found by going up.
-/

namespace BeanMapper.Java

mutual

/-- The node itself and the nodes below it that cover an offset, innermost first. -/
def pathFrom (offset : Nat) : Node → List Node
  | .mk kind role start stop children =>
      pathInto offset children ++ [.mk kind role start stop children]

/-- The nodes that cover an offset, among the given ones and below them, innermost first. -/
def pathInto (offset : Nat) : List Node → List Node
  | [] => []
  | n :: ns =>
      if n.kind.isNamed && n.covers offset then pathFrom offset n else pathInto offset ns

end

/-- The first of some nodes with the others above it. -/
def siteOf? : List Node → Option Site
  | [] => none
  | n :: above => some ⟨n, above⟩

/-- Where a cursor stands in a text of the given length. -/
def siteAt (length : Nat) (root : Node) (offset : Nat) : Option Site :=
  if length < offset then none
  else siteOf? (pathFrom (if offset = length then offset - 1 else offset) root)

/-- The method that a node declares. -/
def methodAt? (source : List Char) (site : Site) : Option EnclosingMethod :=
  if site.node.kind.isMethod then
    some
      ⟨(ownName? source site.node).getD "", returnTypeOf source site.node,
        enclosingName? source site.above⟩
  else none

/-- What locating needs to know of the tree of a text. -/
def syntaxView (source : List Char) (root : Node) : SyntaxView Site where
  nodeAt := siteAt (Text.byteLength source) root
  parent? site := siteOf? site.above
  method? := methodAt? source

end BeanMapper.Java
