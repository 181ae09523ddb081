import BeanMapper.TypeName
import BeanMapper.Unicode.Case

/-!
# Members — the fields and methods of a declared type

    Every method whose name begins with `set` counts as a setter.  The key of
    a setter is the rest of its name in lower case, and the key of a field is
    its whole name in lower case: a setter takes the field with its key.
-/

namespace BeanMapper

/-- The lower case of a text. -/
def lowered (text : String) : String := String.ofList (Unicode.lower text.toList)

/-- A field that a type declares directly. -/
structure Field where
  /-- The name as it is spelled. -/
  name : String
  /-- The type that declares the field. -/
  declaringType : TypeName
deriving DecidableEq

/-- The key under which setters look for the field. -/
def Field.matchKey (f : Field) : String := lowered f.name

/-- The return type of a method as it is declared. -/
inductive ReturnType where
  /-- There is none, as for a constructor. -/
  | missing
  /-- The method returns nothing. -/
  | void
  /-- The method returns a value of a type. -/
  | type (name : TypeName)
deriving DecidableEq

/-- The name of the type that is returned, if one is. -/
def ReturnType.asType? : ReturnType → Option TypeName
  | .type name => some name
  | .missing => none
  | .void => none

/-- A method that a type declares directly. -/
structure Method where
  /-- The name of the method. -/
  name : String
  /-- The number of its parameters. -/
  parameterCount : UInt64
  /-- Its return type as declared. -/
  returnType : ReturnType
deriving DecidableEq

namespace Method

/-- How the name of every setter begins. -/
def setterMark : String := "set"

/-- The part of a setter's name after `set`. -/
def propertyPart? (m : Method) : Option (List Char) := setterMark.toList.isPrefixOf? m.name.toList

/-- Whether the method is a setter. -/
def isSetter (m : Method) : Bool := m.propertyPart?.isSome

/-- The key of a setter: the lower case of its name after `set`. -/
def setterKey? (m : Method) : Option String :=
  m.propertyPart?.map fun rest => String.ofList (Unicode.lower rest)

/-- Whether the declared return type can denote the type `t`. -/
def returns (m : Method) (t : TypeName) : Bool := m.returnType.asType?.any (·.refersTo t)

end Method

end BeanMapper
