import BeanMapper.Text.Dotted

/-!
# Annotations — marks on declarations, and probing them for a flag

    An annotation is named as it is written and has attributes in their order.
    Two names match as wholes when both are qualified, and by their last
    segments otherwise.  `MarkerState` is the answer to "does a declaration
    carry this annotation, and does it switch the flag on?"; the states form a
    semilattice under `or` with `absent` at the bottom.
-/

namespace BeanMapper

/-- The value of an attribute of an annotation. -/
inductive AttributeValue where
  /-- One of the literals `true` and `false`. -/
  | bool (value : Bool)
  /-- Any other expression, as it is written. -/
  | text (value : String)
deriving DecidableEq

/-- The value of a boolean literal. -/
def AttributeValue.asBool? : AttributeValue → Option Bool
  | .bool value => some value
  | .text _ => none

/-- An annotation of a declaration. -/
structure Annotation where
  /-- The name as it is written. -/
  name : String
  /-- The attributes in their order, with their keys. -/
  attributes : List (String × AttributeValue) := []
deriving DecidableEq

namespace Annotation

/-- The last segment of the name of an annotation. -/
def simpleNameOf (name : String) : String := String.ofList (Text.lastSegment name.toList)

/-- The last segment of the annotation's name. -/
def simpleName (a : Annotation) : String := simpleNameOf a.name

/-- The annotation with one more attribute. -/
def withAttribute (a : Annotation) (key : String) (value : AttributeValue) : Annotation :=
  { a with attributes := a.attributes ++ [(key, value)] }

/-- The value of the first attribute with a key. -/
def attribute? (a : Annotation) (key : String) : Option AttributeValue := a.attributes.lookup key

/-- The value of the first attribute with a key, if it is a boolean literal. -/
def flag? (a : Annotation) (key : String) : Option Bool :=
  (a.attribute? key).bind AttributeValue.asBool?

/-- Whether a name has a qualifier. -/
def isQualified (name : String) : Bool := name.toList.contains '.'

/-- Whether two names of annotations match: wholly if both are qualified, else in their last
    segment. -/
def namesMatch (a b : String) : Bool :=
  if isQualified a && isQualified b then a == b else simpleNameOf a == simpleNameOf b

/-- Whether the annotation goes by the given name. -/
def matchesName (a : Annotation) (name : String) : Bool := namesMatch a.name name

end Annotation

/-- What probing a declaration for a marking annotation and its flag finds. -/
inductive MarkerState where
  /-- The marker stands there and its flag is on. -/
  | enabled
  /-- The marker stands there, without the flag or with the flag off. -/
  | disabled
  /-- There is no such marker. -/
  | absent
deriving DecidableEq

namespace MarkerState

/-- Whether the flag is on; an absent marker counts as off. -/
def isEnabled (s : MarkerState) : Bool := s == .enabled

/-- The joint answer of two probes: an enabled marker wins, then one that is there at all. -/
def or : MarkerState → MarkerState → MarkerState
  | .enabled, _ => .enabled
  | _, .enabled => .enabled
  | .disabled, _ => .disabled
  | _, .disabled => .disabled
  | .absent, .absent => .absent

/-- The joint answer of any number of probes. -/
def join (states : List MarkerState) : MarkerState := states.foldl or .absent

/-- It does not matter which of two probes comes first. -/
theorem or_comm (a b : MarkerState) : a.or b = b.or a := by
  cases a <;> cases b <;> rfl

/-- It does not matter which probes are joined first. -/
theorem or_assoc (a b c : MarkerState) : (a.or b).or c = a.or (b.or c) := by
  cases a <;> cases b <;> cases c <;> rfl

end MarkerState

end BeanMapper
