import BeanMapper.Declaration
import BeanMapper.Json.Decode
import BeanMapper.Json.Value

/-!
# Schema of declarations — declared types as JSON

    Each record is an object with its fields in their order.  Attributes of an
    annotation are left out if there are none, and so is an unknown origin.
    Alternatives are named in lower case with underscores.
-/

namespace BeanMapper.Schema

open Json

/-- The name of the alternative that holds for a value, in a table of names. -/
def nameIn {α : Type} [BEq α] (table : List (String × α)) (value : α) : String :=
  ((table.find? (·.2 == value)).map (·.1)).getD ""

/-- A member that is left out if its value is not there. -/
def optionalMember (key : String) (value : Option Value) : List (String × Value) :=
  (value.map fun v => (key, v)).toList

/-- Takes the name of a type. -/
def typeName : Decoder TypeName := fun d => (Decode.string d).map TypeName.mk

/-- The name of a type. -/
def ofTypeName (t : TypeName) : Value := .string t.name

/-- Takes a field. -/
def field : Decoder Field :=
  Decode.record "FieldDescriptor"
    [Decode.slot "name" .required Decode.string fun name f => { f with name },
     Decode.slot "declaring_type" .required typeName fun declaringType f => { f with declaringType }]
    ⟨"", ⟨""⟩⟩

/-- A field. -/
def ofField (f : Field) : Value :=
  .object [("name", .string f.name), ("declaring_type", ofTypeName f.declaringType)]

/-- Takes a return type. -/
def returnType : Decoder ReturnType :=
  Decode.variant
    [("missing", .plain .missing), ("void", .plain .void),
     ("type", .wrap fun d => (typeName d).map ReturnType.type)]

/-- A return type. -/
def ofReturnType : ReturnType → Value
  | .missing => .string "missing"
  | .void => .string "void"
  | .type name => .object [("type", ofTypeName name)]

/-- Takes a method. -/
def method : Decoder Method :=
  Decode.record "MethodDescriptor"
    [Decode.slot "name" .required Decode.string fun name m => { m with name },
     Decode.slot "parameter_count" .required Decode.word64 fun parameterCount m =>
       { m with parameterCount },
     Decode.slot "return_type" .required returnType fun returnType m => { m with returnType }]
    ⟨"", 0, .missing⟩

/-- A method. -/
def ofMethod (m : Method) : Value :=
  .object
    [("name", .string m.name), ("parameter_count", .number m.parameterCount.toNat),
     ("return_type", ofReturnType m.returnType)]

/-- Takes the value of an attribute. -/
def attributeValue : Decoder AttributeValue :=
  Decode.variant
    [("bool", .wrap fun d => (Decode.bool d).map AttributeValue.bool),
     ("text", .wrap fun d => (Decode.string d).map AttributeValue.text)]

/-- The value of an attribute. -/
def ofAttributeValue : AttributeValue → Value
  | .bool value => .object [("bool", .bool value)]
  | .text value => .object [("text", .string value)]

/-- Takes an attribute with its key. -/
def keyedValue : Decoder (String × AttributeValue) := Decode.pair Decode.string attributeValue

/-- An attribute with its key. -/
def ofKeyedValue (a : String × AttributeValue) : Value :=
  .array [.string a.1, ofAttributeValue a.2]

/-- Takes an annotation. -/
def annotation : Decoder Annotation :=
  Decode.record "Annotation"
    [Decode.slot "name" .required Decode.string fun name a => { a with name },
     Decode.slot "attributes" .defaulted (Decode.list keyedValue) fun attributes a =>
       { a with attributes }]
    ⟨"", []⟩

/-- An annotation. -/
def ofAnnotation (a : Annotation) : Value :=
  let attributes := a.attributes.map ofKeyedValue
  .object (("name", .string a.name) ::
    optionalMember "attributes" (if attributes.isEmpty then none else some (.array attributes)))

/-- The names of the kinds of declared types. -/
def kinds : List (String × DeclarationKind) :=
  [("class", .classType), ("interface", .interfaceType), ("enum", .enumType),
   ("record", .recordType), ("annotation_type", .annotationType), ("anonymous", .anonymousType)]

/-- Takes a declaration. -/
def declaration : Decoder Declaration :=
  Decode.record "TypeDeclaration"
    [Decode.slot "type_ref" .required typeName fun typeName d => { d with typeName },
     Decode.slot "kind" .required (Decode.named kinds) fun kind d => { d with kind },
     Decode.slot "fields" .required (Decode.list field) fun fields d => { d with fields },
     Decode.slot "methods" .required (Decode.list method) fun methods d => { d with methods },
     Decode.slot "annotations" .required (Decode.list annotation) fun annotations d =>
       { d with annotations },
     Decode.slot "origin" .nullable (Decode.optional Decode.string) fun origin d =>
       { d with origin }]
    { typeName := ⟨""⟩, kind := .classType }

/-- A declaration. -/
def ofDeclaration (d : Declaration) : Value :=
  .object
    ([("type_ref", ofTypeName d.typeName), ("kind", .string (nameIn kinds d.kind)),
      ("fields", .array (d.fields.map ofField)), ("methods", .array (d.methods.map ofMethod)),
      ("annotations", .array (d.annotations.map ofAnnotation))]
      ++ optionalMember "origin" (d.origin.map .string))

/-- The names of the answers of a probe for a marker. -/
def markerStates : List (String × MarkerState) :=
  [("present_true", .enabled), ("present_false", .disabled), ("absent", .absent)]

/-- Takes the answer of a probe. -/
def markerState : Decoder MarkerState := Decode.named markerStates

/-- The answer of a probe. -/
def ofMarkerState (s : MarkerState) : Value := .string (nameIn markerStates s)

end BeanMapper.Schema
