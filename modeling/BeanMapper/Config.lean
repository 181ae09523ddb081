import BeanMapper.Mapping.Snippet
import BeanMapper.Text.Lines
import BeanMapper.Unicode.Classes

/-!
# Settings — what a user may configure

    A configuration is valid if its local variable is an identifier, its null
    literal is not blank, and its indentation unit is made of spaces and tabs.
    The first setting that breaks its rule is the one that is reported.
-/

namespace BeanMapper

/-- The settings of a run. -/
structure Config where
  /-- The name of the local variable in imperative snippets. -/
  localVariable : String := "result"
  /-- What setters without a field are given. -/
  nullLiteral : String := "null"
  /-- How the local variable is declared. -/
  declarationStyle : DeclarationStyle := .var
  /-- The annotations whose flag `chain` asks for chained snippets. -/
  fluentMarkers : List String := ["lombok.experimental.Accessors"]
  /-- Whether the setters that Lombok adds are taken into account. -/
  synthesizeLombokSetters : Bool := true
  /-- How many parents of the node at the cursor are looked at. -/
  maxAscentDepth : UInt64 := 4096
  /-- Whether inserted snippets are indented. -/
  reindent : Bool := true
  /-- One step of indentation. -/
  indentUnit : String := "    "
  /-- The path that the settings were read from. -/
  loadedFrom : Option String := none
deriving DecidableEq

namespace Config

/-- The settings of a run without a configuration. -/
def default : Config := {}

/-- A setting that breaks its rule. -/
inductive Fault where
  /-- The local variable is not an identifier. -/
  | localVariable (name : String)
  /-- The null literal is blank. -/
  | nullLiteral
  /-- The indentation unit holds something else than spaces and tabs. -/
  | indentUnit
deriving DecidableEq

/-- The words for a setting that breaks its rule. -/
def Fault.message : Fault → String
  | .localVariable name => "local_variable '" ++ name ++ "' is not a valid identifier"
  | .nullLiteral => "null_literal must not be empty"
  | .indentUnit => "indent_unit may only contain spaces and tabs"

/-- Whether a text can name a local variable: letters, numbers, `_` and `$`, no number first. -/
def isVariableName : List Char → Bool
  | [] => false
  | first :: rest =>
      (Unicode.isAlphabetic first || first == '_' || first == '$')
        && rest.all fun c => Unicode.isAlphanumeric c || c == '_' || c == '$'

/-- The first setting that breaks its rule. -/
def fault? (config : Config) : Option Fault :=
  if !isVariableName config.localVariable.toList then some (.localVariable config.localVariable)
  else if Text.isBlank config.nullLiteral.toList then some .nullLiteral
  else if !config.indentUnit.toList.all (fun c => c == ' ' || c == '\t') then some .indentUnit
  else none

/-- Whether every setting keeps its rule. -/
def isValid (config : Config) : Bool := config.fault?.isNone

/-- The part of the settings that snippets are written with. -/
def renderOptions (config : Config) : RenderOptions :=
  ⟨config.localVariable, config.nullLiteral, config.declarationStyle⟩

/-- The indentation unit for inserted snippets, if they are to be indented. -/
def insertionUnit (config : Config) : Option String :=
  if config.reindent then some config.indentUnit else none

end Config

end BeanMapper
