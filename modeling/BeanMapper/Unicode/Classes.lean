import BeanMapper.Unicode.AlphabeticRanges
import BeanMapper.Unicode.IdentifierRanges
import BeanMapper.Unicode.NumberRanges

/-!
# Classes of characters — blanks, letters, numbers, identifiers

    The tests on characters that names, settings and Java identifiers are made
    of.  Each is the membership test of a property of the Unicode standard.
-/

namespace BeanMapper.Unicode

/-- The code points with the property White_Space. -/
def whiteSpaceRanges : List (Nat × Nat) :=
  [(0x9, 0xD), (0x20, 0x20), (0x85, 0x85), (0xA0, 0xA0), (0x1680, 0x1680), (0x2000, 0x200A),
   (0x2028, 0x2029), (0x202F, 0x202F), (0x205F, 0x205F), (0x3000, 0x3000)]

/-- Whether a character is white space. -/
def isWhiteSpace (c : Char) : Bool := inRanges whiteSpaceRanges c.toNat

/-- Whether a character is alphabetic. -/
def isAlphabetic (c : Char) : Bool := inRanges alphabeticRanges c.toNat

/-- Whether a character is alphabetic or belongs to one of the number categories. -/
def isAlphanumeric (c : Char) : Bool := isAlphabetic c || inRanges numberRanges c.toNat

/-- Whether a character may begin a Java identifier. -/
def isIdentifierStart (c : Char) : Bool :=
  c.isAlpha || c == '_' || c == '$' || inRanges identifierStartRanges c.toNat

/-- Whether a character may continue a Java identifier; the cent sign may. -/
def isIdentifierPart (c : Char) : Bool :=
  c.isAlphanum || c == '_' || c == '$' || c.toNat == 0xA2
    || inRanges identifierContinueRanges c.toNat

end BeanMapper.Unicode
