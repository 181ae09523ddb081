import BeanMapper.Mapping.Analysis
import BeanMapper.Position
import BeanMapper.Schema.Declaration

/-!
# Schema of mappings — snippets, analyses and positions as JSON
-/

namespace BeanMapper.Schema

open Json

/-- Takes a setter with the field it takes. -/
def setterMatch : Decoder SetterMatch :=
  Decode.record "SetterMatch"
    [Decode.slot "setter" .required Decode.string fun setter m => { m with setter },
     Decode.slot "field" .nullable (Decode.optional Decode.string) fun field m => { m with field }]
    ⟨"", none⟩

/-- A text that may not be there. -/
def ofOptional : Option String → Value
  | none => .null
  | some s => .string s

/-- A setter with the field it takes. -/
def ofSetterMatch (m : SetterMatch) : Value :=
  .object [("setter", .string m.setter), ("field", ofOptional m.field)]

/-- The names of the modes. -/
def modes : List (String × Mode) :=
  [("chained_builder", .chainedBuilder), ("imperative_assignment", .imperativeAssignment)]

/-- Takes a mode. -/
def mode : Decoder Mode := Decode.named modes

/-- A mode. -/
def ofMode (m : Mode) : Value := .string (nameIn modes m)

/-- Takes a snippet with what it was made from. -/
def generatedText : Decoder GeneratedText :=
  Decode.record "GeneratedText"
    [Decode.slot "target" .required typeName fun target g => { g with target },
     Decode.slot "source" .required typeName fun source g => { g with source },
     Decode.slot "mode" .required mode fun mode g => { g with mode },
     Decode.slot "matches" .required (Decode.list setterMatch) fun matched g => { g with matched },
     Decode.slot "text" .required Decode.string fun text g => { g with text }]
    ⟨⟨""⟩, ⟨""⟩, .chainedBuilder, [], ""⟩

/-- A snippet with what it was made from. -/
def ofGeneratedText (g : GeneratedText) : Value :=
  .object
    [("target", ofTypeName g.target), ("source", ofTypeName g.source), ("mode", ofMode g.mode),
     ("matches", .array (g.matched.map ofSetterMatch)), ("text", .string g.text)]

/-- Takes a method with the two types it relates. -/
def context : Decoder Context :=
  Decode.record "LocatedContext"
    [Decode.slot "method_name" .required Decode.string fun methodName c => { c with methodName },
     Decode.slot "target" .required typeName fun target c => { c with target },
     Decode.slot "source" .required typeName fun source c => { c with source }]
    ⟨"", ⟨""⟩, ⟨""⟩⟩

/-- A method with the two types it relates. -/
def ofContext (c : Context) : Value :=
  .object
    [("method_name", .string c.methodName), ("target", ofTypeName c.target),
     ("source", ofTypeName c.source)]

/-- Takes an analysis. -/
def analysis : Decoder Analysis :=
  Decode.record "Analysis"
    [Decode.slot "context" .required context fun context a => { a with context },
     Decode.slot "generated" .required generatedText fun generated a => { a with generated }]
    ⟨⟨"", ⟨""⟩, ⟨""⟩⟩, ⟨⟨""⟩, ⟨""⟩, .chainedBuilder, [], ""⟩⟩

/-- An analysis. -/
def ofAnalysis (a : Analysis) : Value :=
  .object [("context", ofContext a.context), ("generated", ofGeneratedText a.generated)]

/-- Takes a position. -/
def position : Decoder Position :=
  Decode.record "Position"
    [Decode.slot "line" .required Decode.word32 fun line p => { p with line },
     Decode.slot "character" .required Decode.word32 fun character p => { p with character }]
    ⟨0, 0⟩

/-- A position. -/
def ofPosition (p : Position) : Value :=
  .object [("line", .number p.line.toNat), ("character", .number p.character.toNat)]

/-- The names of the reasons for an abort. -/
def aborts : List (String × Abort) :=
  [("no_method_context", .noMethodContext),
   ("void_or_missing_return_type", .voidOrMissingReturnType),
   ("unresolvable_type", .unresolvableType)]

/-- Takes the reason for an abort. -/
def abort : Decoder Abort := Decode.named aborts

/-- The reason for an abort. -/
def ofAbort (a : Abort) : Value := .string (nameIn aborts a)

end BeanMapper.Schema
