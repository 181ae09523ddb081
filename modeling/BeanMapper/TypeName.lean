import BeanMapper.Text.Dotted
import BeanMapper.Text.Lines
import BeanMapper.Text.Utf8

/-!
# Type names — the handle of a declared type

    A type is known by its erased dotted name: no type arguments and no white
    space, qualifiers kept (`B.Builder`), array brackets kept, so `Foo[]` never
    stands for `Foo`.  A declaration is named by its outer types and itself,
    without the package.  Two names may denote the same type when one is a
    dotted suffix of the other.
-/

namespace BeanMapper

/-- The erased dotted name of a type. -/
structure TypeName where
  /-- The name as text. -/
  name : String
deriving DecidableEq

namespace TypeName

/-- A text without every `...` at its beginning. -/
def dropEllipses : List Char → List Char
  | '.' :: '.' :: '.' :: cs => dropEllipses cs
  | cs => cs

/-- The characters outside angle brackets that are not white space; `depth` brackets are open,
    and a closing bracket without an opening one is passed over. -/
def dropArguments : Nat → List Char → List Char
  | _, [] => []
  | depth, c :: cs =>
      if c = '<' then dropArguments (depth + 1) cs
      else if c = '>' then dropArguments (depth - 1) cs
      else if depth = 0 && !Unicode.isWhiteSpace c then c :: dropArguments depth cs
      else dropArguments depth cs

/-- The characters of the erased name of a type as it is written. -/
def erase (written : List Char) : List Char :=
  dropArguments 0 (dropEllipses (Text.trim written).reverse).reverse

/-- The erased name of a type as it is written in a source text. -/
def erased (written : String) : TypeName := ⟨String.ofList (erase written.toList)⟩

/-- The name of a type that is a member of `outer`. -/
def nested (outer : TypeName) (name : String) : TypeName := ⟨outer.name ++ "." ++ name⟩

/-- How the name of every anonymous type begins. -/
def anonymousMark : String := "<anonymous@"

/-- The name of the anonymous type whose body starts at a byte offset. -/
def anonymous (start : Nat) : TypeName := ⟨anonymousMark ++ toString start ++ ">"⟩

/-- Whether this is the name of an anonymous type. -/
def isAnonymous (t : TypeName) : Bool := anonymousMark.toList.isPrefixOf t.name.toList

/-- The last segment of a name. -/
def simpleName (t : TypeName) : String := String.ofList (Text.lastSegment t.name.toList)

/-- A name and its shorter dotted suffixes, longest first. -/
def suffixes (t : TypeName) : List TypeName :=
  (Text.dottedSuffixes t.name.toList).map fun cs => ⟨String.ofList cs⟩

/-- Whether the first text is the second one or stands after a dot at its end. -/
def endsIn (short long : List Char) : Bool :=
  long == short || ('.' :: short).isSuffixOf long

/-- Whether a type written with this name can denote the declaration named `declared`: of the two
    names the one with fewer bytes is a dotted suffix of the other. -/
def refersTo (written declared : TypeName) : Bool :=
  let w := written.name.toList
  let d := declared.name.toList
  if Text.byteLength w ≤ Text.byteLength d then endsIn w d else endsIn d w

end TypeName

end BeanMapper
