import BeanMapper.Annotation
import BeanMapper.Member

/-!
# Declarations — what is known of one declared type

    A declaration lists its direct fields and methods in the order of the
    source text, its annotations, and the path of the file it was read from.
-/

namespace BeanMapper

/-- The kinds of declared types. -/
inductive DeclarationKind where
  | classType
  | interfaceType
  | enumType
  | recordType
  | annotationType
  | anonymousType
deriving DecidableEq

/-- One declared type. -/
structure Declaration where
  /-- The name of the type. -/
  typeName : TypeName
  /-- What kind of type it is. -/
  kind : DeclarationKind
  /-- The direct fields in declaration order. -/
  fields : List Field := []
  /-- The direct methods in declaration order. -/
  methods : List Method := []
  /-- The annotations in their order. -/
  annotations : List Annotation := []
  /-- The path of the file that the declaration was read from. -/
  origin : Option String := none
deriving DecidableEq

namespace Declaration

/-- A class without members. -/
def ofClass (name : String) : Declaration := { typeName := ⟨name⟩, kind := .classType }

/-- The declaration with one more field, which it declares itself. -/
def withField (d : Declaration) (name : String) : Declaration :=
  { d with fields := d.fields ++ [⟨name, d.typeName⟩] }

/-- The declaration with one more method. -/
def withMethod (d : Declaration) (m : Method) : Declaration :=
  { d with methods := d.methods ++ [m] }

/-- The declaration with one more annotation. -/
def withAnnotation (d : Declaration) (a : Annotation) : Declaration :=
  { d with annotations := d.annotations ++ [a] }

/-- The declaration as read from the file at a path. -/
def withOrigin (d : Declaration) (path : String) : Declaration := { d with origin := some path }

/-- Whether a method has the given name. -/
def hasMethod (d : Declaration) (name : String) : Bool := d.methods.any (·.name == name)

/-- The methods that are setters, in declaration order. -/
def setters (d : Declaration) : List Method := d.methods.filter (·.isSetter)

/-- The annotations that go by the given name. -/
def annotationsNamed (d : Declaration) (name : String) : List Annotation :=
  d.annotations.filter (·.matchesName name)

/-- Probes the declaration for the annotation `marker` with the given attribute switched on. -/
def markerState (d : Declaration) (marker attributeName : String) : MarkerState :=
  match d.annotationsNamed marker with
  | [] => .absent
  | found => if found.any (·.flag? attributeName == some true) then .enabled else .disabled

end Declaration

end BeanMapper
