import BeanMapper.Declaration
import BeanMapper.Java.Naming
import BeanMapper.Mapping.Mode
import BeanMapper.Unicode.Case

/-!
# Extraction — the declarations in a tree

    Every named type, every anonymous class and every constant with a body is
    a declaration, an outer one before the ones inside it.  It lists its
    direct fields and methods: components of a record, declared variables and
    constants; methods, but no constructors.  On request a class also has the
    setters that Lombok adds to it.
-/

namespace BeanMapper.Java

/-! ## Modifiers and annotations -/

/-- The modifiers of a declaration, as far as they matter. -/
structure Modifiers where
  /-- The annotations in their order. -/
  annotations : List Annotation := []
  /-- Whether the keyword `static` stands there. -/
  isStatic : Bool := false
  /-- Whether the keyword `final` stands there. -/
  isFinal : Bool := false

/-- Whether one of the annotations goes by the given name. -/
def Modifiers.hasAnnotation (m : Modifiers) (name : String) : Bool :=
  m.annotations.any (·.matchesName name)

/-- The value of an attribute by its expression. -/
def attributeValue (source : List Char) (n : Node) : AttributeValue :=
  match n.kind with
  | .trueLiteral => .bool true
  | .falseLiteral => .bool false
  | _ => .text (n.words source)

/-- The attribute that an argument of an annotation stands for; a lone value has the key `value`. -/
def attribute? (source : List Char) (n : Node) : Option (String × AttributeValue) :=
  if n.kind.isComment then none
  else if n.kind == .elementValuePair then
    match n.child? .key, n.child? .value with
    | some key, some value => some (key.words source, attributeValue source value)
    | _, _ => none
  else some ("value", attributeValue source n)

/-- The attributes of an annotation. -/
def attributesOf (source : List Char) (n : Node) : List (String × AttributeValue) :=
  match n.child? .arguments with
  | some arguments => arguments.children.filterMap (attribute? source)
  | none => []

/-- The annotation that a node stands for. -/
def annotation? (source : List Char) (n : Node) : Option Annotation :=
  if n.kind == .annotationUse || n.kind == .annotationMark then
    (n.child? .name).map fun name => ⟨name.words source, attributesOf source n⟩
  else none

/-- The modifiers of a declaration. -/
def modifiersOf (source : List Char) (n : Node) : Modifiers :=
  match n.childOfKind? .modifiers with
  | none => {}
  | some ms =>
      ⟨ms.children.filterMap (annotation? source), ms.children.any (·.kind == .staticKeyword),
        ms.children.any (·.kind == .finalKeyword)⟩

/-! ## Members -/

/-- A field with its modifiers. -/
structure FieldEntry where
  /-- The name of the field. -/
  name : String
  /-- Its modifiers. -/
  modifiers : Modifiers

/-- The fields that a declaration of variables stands for. -/
def declaredFields (source : List Char) (n : Node) : List FieldEntry :=
  let modifiers := modifiersOf source n
  (n.children.filter (·.role == .declarator)).filterMap fun d =>
    (ownName? source d).map fun name => ⟨name, modifiers⟩

/-- The fields that a member of a body stands for, constants among them. -/
def fieldsOfMember (source : List Char) (n : Node) : List FieldEntry :=
  match n.kind with
  | .fieldDeclaration => declaredFields source n
  | .constantDeclaration => declaredFields source n
  | .enumConstant =>
      ((ownName? source n).map fun name =>
        ⟨name, { isStatic := true, isFinal := true }⟩).toList
  | _ => []

/-- Whether a node is a parameter that a call gives a value to. -/
def isParameter (n : Node) : Bool := n.kind == .formalParameter || n.kind == .spreadParameter

/-- The number of parameters of a method. -/
def parameterCount (n : Node) : Nat :=
  match n.child? .parameters with
  | some parameters => parameters.children.countP isParameter
  | none => 0

/-- The method that a member of a body stands for. -/
def methodOfMember? (source : List Char) (n : Node) : Option Method :=
  if n.kind == .methodDeclaration then
    (ownName? source n).map fun name =>
      ⟨name, UInt64.ofNat (parameterCount n), returnTypeOf source n⟩
  else none

/-- The direct members in a body; those of an enumeration behind its constants count too. -/
def membersOf (body : Node) : List Node :=
  body.children.flatMap fun n =>
    if n.kind == .enumBodyDeclarations then n.children else [n]

/-- The components of a record as fields. -/
def componentsOf (source : List Char) (n : Node) : List FieldEntry :=
  match n.child? .parameters with
  | none => []
  | some parameters =>
      (parameters.children.filter (·.kind == .formalParameter)).filterMap fun p =>
        (ownName? source p).map fun name => ⟨name, { isFinal := true }⟩

/-! ## Setters that Lombok adds -/

/-- How setters are added to classes. -/
structure Synthesis where
  /-- Whether setters are added at all. -/
  isOn : Bool := true
  /-- The annotations whose flag `chain` makes added setters return their class. -/
  fluentMarkers : List String := []

namespace Synthesis

/-- The annotations that ask for setters of a whole class. -/
def classMarkers : List String := ["lombok.Data", "lombok.Setter"]

/-- The annotation that asks for the setter of a field. -/
def fieldMarker : String := "lombok.Setter"

/-- Whether a field gets a setter in a class of which the whole class may ask for setters. -/
def isEligible (wholeClass : Bool) (field : FieldEntry) : Bool :=
  (wholeClass || field.modifiers.hasAnnotation fieldMarker)
    && !field.modifiers.isStatic && !field.modifiers.isFinal

/-- The name of the setter of a field. -/
def setterName (field : String) : String :=
  Method.setterMark ++ String.ofList (Unicode.capitalize field.toList)

/-- Whether the whole class asks for setters. -/
def asksForAll (d : Declaration) : Bool :=
  d.annotations.any fun a => classMarkers.any a.matchesName

/-- What added setters return. -/
def returned (markers : List String) (d : Declaration) : ReturnType :=
  if (Mode.fluentMarkerState d markers).isEnabled then .type d.typeName else .void

/-- The declaration with the setter of a field, unless it has a method of that name. -/
def addSetter (result : ReturnType) (d : Declaration) (field : FieldEntry) : Declaration :=
  if d.hasMethod (setterName field.name) then d
  else d.withMethod ⟨setterName field.name, 1, result⟩

/-- The class with the setters that it and its fields ask for. -/
def complete (s : Synthesis) (d : Declaration) (fields : List FieldEntry) : Declaration :=
  if s.isOn && d.kind == .classType then
    (fields.filter (isEligible (asksForAll d))).foldl (addSetter (returned s.fluentMarkers d)) d
  else d

end Synthesis

/-! ## Declarations -/

/-- The kind of type that a node declares. -/
def declarationKind? : Kind → Option DeclarationKind
  | .classDeclaration => some .classType
  | .interfaceDeclaration => some .interfaceType
  | .enumDeclaration => some .enumType
  | .recordDeclaration => some .recordType
  | .annotationTypeDeclaration => some .annotationType
  | _ => none

/-- The members of a body, if there is one. -/
def membersOf? (body : Option Node) : List Node :=
  match body with
  | some b => membersOf b
  | none => []

/-- The declaration of a named type. -/
def namedDeclaration (source : List Char) (s : Synthesis) (kind : DeclarationKind)
    (name : TypeName) (n : Node) : Declaration :=
  let members := membersOf? (n.child? .body)
  let fields := componentsOf source n ++ members.flatMap (fieldsOfMember source)
  let plain : Declaration :=
    { typeName := name
      kind := kind
      fields := fields.map fun f => ⟨f.name, name⟩
      methods := members.filterMap (methodOfMember? source)
      annotations := (modifiersOf source n).annotations }
  s.complete plain fields

/-- The declaration of a type without a name, by its body. -/
def anonymousDeclaration (source : List Char) (body : Node) : Declaration :=
  let name := TypeName.anonymous body.start
  let members := membersOf body
  { typeName := name
    kind := .anonymousType
    fields := (members.flatMap (fieldsOfMember source)).map fun f => ⟨f.name, name⟩
    methods := members.filterMap (methodOfMember? source) }

/-- The body of the type without a name that a node holds. -/
def anonymousBody? (n : Node) : Option Node :=
  match n.kind with
  | .objectCreationExpression => n.childOfKind? .classBody
  | .enumConstant => n.child? .body
  | _ => none

/-- The declaration that a node stands for, given the nodes above it. -/
def declarationAt? (source : List Char) (s : Synthesis) (n : Node) (above : List Node) :
    Option Declaration :=
  match declarationKind? n.kind with
  | some kind =>
      (declaredName? source n above).map fun name => namedDeclaration source s kind name n
  | none => (anonymousBody? n).map (anonymousDeclaration source)

mutual

/-- The declarations in a node, given the nodes above it. -/
def declarationsIn (source : List Char) (s : Synthesis) (above : List Node) :
    Node → List Declaration
  | .mk kind role start stop children =>
      let n := Node.mk kind role start stop children
      (declarationAt? source s n above).toList
        ++ declarationsInAll source s (n :: above) children

/-- The declarations in the given nodes, given the nodes above them. -/
def declarationsInAll (source : List Char) (s : Synthesis) (above : List Node) :
    List Node → List Declaration
  | [] => []
  | n :: ns => declarationsIn source s above n ++ declarationsInAll source s above ns

end

/-- The declarations in a tree, as read from the file at a path. -/
def extract (source : List Char) (s : Synthesis) (origin : Option String) (root : Node) :
    List Declaration :=
  (declarationsIn source s [] root).map fun d =>
    match origin with
    | some path => d.withOrigin path
    | none => d

end BeanMapper.Java
