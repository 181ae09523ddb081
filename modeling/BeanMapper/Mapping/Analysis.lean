import BeanMapper.Config
import BeanMapper.Locate

/-!
# Analyses — locate, choose the mode, match and render

    `generateFor` writes the snippet for two known declarations; `analyze`
    finds the declarations at a cursor first.
-/

namespace BeanMapper

/-- A snippet together with what it was made from. -/
structure GeneratedText where
  /-- The type that is built. -/
  target : TypeName
  /-- The type whose fields are taken. -/
  source : TypeName
  /-- The shape of the snippet. -/
  mode : Mode
  /-- The setters that are called, in their order. -/
  matched : List SetterMatch
  /-- The snippet. -/
  text : String
deriving DecidableEq

/-- The number of setters that take a field. -/
def GeneratedText.matchedCount (g : GeneratedText) : Nat := g.matched.countP (·.isMatched)

/-- Everything that was found out at a cursor. -/
structure Analysis where
  /-- The method and the two types. -/
  context : Context
  /-- The snippet. -/
  generated : GeneratedText
deriving DecidableEq

/-- The snippet that builds `target` from the fields of `source`. -/
def generateFor (config : Config) (target source : Declaration) : GeneratedText :=
  let mode := Mode.select target config.fluentMarkers
  let matched := matchSetters target source
  ⟨target.typeName, source.typeName, mode, matched,
    Snippet.render mode target.typeName.name matched config.renderOptions⟩

/-- The analysis at a byte offset of a syntax tree. -/
def analyze {Node : Type} (config : Config) (view : SyntaxView Node)
    (declarationOf : TypeName → Option Declaration) (offset : Nat) : Except Abort Analysis :=
  match locate view declarationOf config.maxAscentDepth.toNat offset with
  | .error reason => .error reason
  | .ok context =>
      match declarationOf context.target, declarationOf context.source with
      | some target, some source => .ok ⟨context, generateFor config target source⟩
      | _, _ => .error .unresolvableType

end BeanMapper
