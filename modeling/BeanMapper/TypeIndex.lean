import BeanMapper.Declaration

/-!
# Type index — looking declarations up by name

    A declaration named `B.Builder` can be reached as `B.Builder` and as
    `Builder`.  A lookup tries the whole written name first and then ever
    shorter suffixes of it.  Of two declarations that share a name or a suffix
    the one registered first keeps it, so the file being edited goes in first.
-/

namespace BeanMapper

/-- The registered declarations and the names under which they are found. -/
structure TypeIndex where
  /-- The declarations in the order of their registration. -/
  declarations : Array Declaration := #[]
  /-- The position of the declaration that each name leads to. -/
  byName : List (TypeName × Nat) := []

namespace TypeIndex

/-- The index of no declaration. -/
def empty : TypeIndex := {}

/-- The position that a name leads to, if the name is taken. -/
def holder? (index : TypeIndex) (name : TypeName) : Option Nat := index.byName.lookup name

/-- Binds a name to a position, unless the name is taken. -/
def claim (position : Nat) (byName : List (TypeName × Nat)) (name : TypeName) :
    List (TypeName × Nat) :=
  if (byName.lookup name).isSome then byName else (name, position) :: byName

/-- The index with one more declaration, which takes every suffix of its name that is free. -/
def register (index : TypeIndex) (d : Declaration) : TypeIndex where
  declarations := index.declarations.push d
  byName := d.typeName.suffixes.foldl (claim index.declarations.size) index.byName

/-- Whether a declaration would be found under its whole name once it is registered. -/
def admits (index : TypeIndex) (d : Declaration) : Bool := (index.holder? d.typeName).isNone

/-- The index with more declarations, registered in their order. -/
def extend (index : TypeIndex) (ds : List Declaration) : TypeIndex := ds.foldl register index

/-- The position of the declaration that a written name leads to: the longest suffix that is taken
    decides. -/
def position? (index : TypeIndex) (name : TypeName) : Option Nat :=
  name.suffixes.findSome? index.holder?

/-- The declaration that a written name leads to. -/
def get? (index : TypeIndex) (name : TypeName) : Option Declaration :=
  (index.position? name).bind (index.declarations[·]?)

/-- The number of registered declarations. -/
def size (index : TypeIndex) : Nat := index.declarations.size

/-- Whether nothing is registered. -/
def isEmpty (index : TypeIndex) : Bool := index.declarations.isEmpty

end TypeIndex

end BeanMapper
