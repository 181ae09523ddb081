import BeanMapper.Declaration

/-!
# Modes — the two shapes of a snippet

    A target whose setters can be chained gets one chained expression, any
    other one a local variable and a statement per setter.  Setters can be
    chained if a fluent marker on the target says so, or if there are setters
    and each of them returns the target.
-/

namespace BeanMapper

/-- The shape of a snippet. -/
inductive Mode where
  /-- `return new T().setA(a).setB(b);` -/
  | chainedBuilder
  /-- `var result = new T(); result.setA(a); return result;` -/
  | imperativeAssignment
deriving DecidableEq

namespace Mode

/-- The words for a mode in messages. -/
def description : Mode → String
  | .chainedBuilder => "chained builder"
  | .imperativeAssignment => "imperative assignment"

/-- The attribute of a fluent marker that switches chaining on. -/
def chainAttribute : String := "chain"

/-- The joint answer of all fluent markers on the target. -/
def fluentMarkerState (target : Declaration) (markers : List String) : MarkerState :=
  MarkerState.join (markers.map fun marker => target.markerState marker chainAttribute)

/-- Whether the target has setters and each of them returns the target. -/
def hasOnlyFluentSetters (target : Declaration) : Bool :=
  !target.setters.isEmpty && target.setters.all (·.returns target.typeName)

/-- The mode in which the target is built. -/
def select (target : Declaration) (markers : List String) : Mode :=
  if (fluentMarkerState target markers).isEnabled || hasOnlyFluentSetters target then
    .chainedBuilder
  else
    .imperativeAssignment

end Mode

end BeanMapper
