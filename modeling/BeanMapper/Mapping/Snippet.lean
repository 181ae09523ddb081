import BeanMapper.Mapping.Matching
import BeanMapper.Mapping.Mode

/-!
# Snippets — the text that builds the target

    A snippet is a list of lines.  In the chained mode a line that creates the
    target is followed by one line per setter, each beginning with a dot; in
    the imperative mode a line declares the local variable, one line per
    setter calls it on the variable, and a last line returns the variable.  A
    setter without a field is given the null literal.
-/

namespace BeanMapper

/-- How the local variable of an imperative snippet is declared. -/
inductive DeclarationStyle where
  /-- `var result = new T();` -/
  | var
  /-- `T result = new T();` -/
  | explicit
deriving DecidableEq

/-- The words and the style that a snippet is written with. -/
structure RenderOptions where
  /-- The name of the local variable. -/
  localVariable : String := "result"
  /-- What a setter without a field is given. -/
  nullLiteral : String := "null"
  /-- How the local variable is declared. -/
  declarationStyle : DeclarationStyle := .var
deriving DecidableEq

namespace Snippet

/-- What a setter is given. -/
def argument (options : RenderOptions) (m : SetterMatch) : String :=
  m.field.getD options.nullLiteral

/-- The call of a setter on a receiver. -/
def call (options : RenderOptions) (receiver : String) (m : SetterMatch) : String :=
  receiver ++ "." ++ m.setter ++ "(" ++ argument options m ++ ")"

/-- The lines of a text; each but the last is followed by a newline. -/
def joinLines (lines : List String) : String := "\n".intercalate lines

/-- The snippet of the chained mode. -/
def chained (target : String) (ms : List SetterMatch) (options : RenderOptions) : String :=
  joinLines (("return new " ++ target ++ "()") :: ms.map (call options "")) ++ ";"

/-- The word that the local variable is declared with. -/
def declaredAs (target : String) : DeclarationStyle → String
  | .var => "var"
  | .explicit => target

/-- The snippet of the imperative mode. -/
def imperative (target : String) (ms : List SetterMatch) (options : RenderOptions) : String :=
  let receiver := options.localVariable
  let first :=
    declaredAs target options.declarationStyle ++ " " ++ receiver ++ " = new " ++ target ++ "();"
  joinLines (first :: ms.map (fun m => call options receiver m ++ ";") ++ ["return " ++ receiver ++ ";"])

/-- The snippet that builds the target with the given setters. -/
def render (mode : Mode) (target : String) (ms : List SetterMatch) (options : RenderOptions) :
    String :=
  match mode with
  | .chainedBuilder => chained target ms options
  | .imperativeAssignment => imperative target ms options

end Snippet

end BeanMapper
