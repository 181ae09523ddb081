import BeanMapper.Config
import BeanMapper.Schema.Declaration

/-!
# Schema of settings — configurations as JSON

    Every setting may be left out and then has its default; what is not a
    setting is passed over.  The style of the local variable may be given in
    any case and with white space around it.
-/

namespace BeanMapper.Schema

open Json

/-- The spellings of the styles of the local variable. -/
def styleSpellings : List (String × DeclarationStyle) :=
  [("var", .var), ("implicit", .var), ("explicit", .explicit)]

/-- The spelling of a text that is read without regard to case and to white space around it. -/
def plainSpelling (text : String) : String :=
  String.ofList (Unicode.lower (Text.trim text.toList))

/-- Takes the style of the local variable. -/
def declarationStyle : Decoder DeclarationStyle := fun d =>
  match Decode.string d with
  | .error p => .error p
  | .ok text =>
      match styleSpellings.lookup (plainSpelling text) with
      | some style => .ok style
      | none => Decode.wrong (.unknownSpelling text (styleSpellings.map (·.1)))

/-- The style of the local variable. -/
def ofDeclarationStyle (style : DeclarationStyle) : Value := .string (nameIn styleSpellings style)

/-- Takes a configuration. -/
def config : Decoder Config :=
  Decode.record "Config"
    [Decode.slot "local_variable" .defaulted Decode.string fun localVariable c =>
       { c with localVariable },
     Decode.slot "null_literal" .defaulted Decode.string fun nullLiteral c =>
       { c with nullLiteral },
     Decode.slot "declaration_style" .defaulted declarationStyle fun declarationStyle c =>
       { c with declarationStyle },
     Decode.slot "fluent_markers" .defaulted (Decode.list Decode.string) fun fluentMarkers c =>
       { c with fluentMarkers },
     Decode.slot "synthesize_lombok_setters" .defaulted Decode.bool
       fun synthesizeLombokSetters c => { c with synthesizeLombokSetters },
     Decode.slot "max_ascent_depth" .defaulted Decode.word64 fun maxAscentDepth c =>
       { c with maxAscentDepth },
     Decode.slot "reindent" .defaulted Decode.bool fun reindent c => { c with reindent },
     Decode.slot "indent_unit" .defaulted Decode.string fun indentUnit c => { c with indentUnit }]
    Config.default

/-- A configuration. -/
def ofConfig (c : Config) : Value :=
  .object
    [("local_variable", .string c.localVariable), ("null_literal", .string c.nullLiteral),
     ("declaration_style", ofDeclarationStyle c.declarationStyle),
     ("fluent_markers", .array (c.fluentMarkers.map .string)),
     ("synthesize_lombok_setters", .bool c.synthesizeLombokSetters),
     ("max_ascent_depth", .number c.maxAscentDepth.toNat), ("reindent", .bool c.reindent),
     ("indent_unit", .string c.indentUnit)]

end BeanMapper.Schema
