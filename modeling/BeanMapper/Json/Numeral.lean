import BeanMapper.Text.Split

/-!
# Numerals — the numbers of JSON and what they are worth

    A whole number that fits 64 bits is kept exactly; any other number is a
    double.  A double is computed from the leading digits that fit a word of
    64 bits and a power of ten, and a number too large for a double has no
    value at all.
-/

namespace BeanMapper.Json

/-- The value of a number. -/
inductive Numeral where
  /-- A natural number below `2^64`. -/
  | natural (n : Nat)
  /-- The number `-n`, for `n` from one to `2^63`. -/
  | negative (n : Nat)
  /-- Any other number. -/
  | floating (x : Float)

/-- A number as it is spelled. -/
structure Spelling where
  /-- Whether a minus sign stands in front. -/
  isNegative : Bool
  /-- The digits before the point. -/
  whole : List Char
  /-- The digits after the point, if there is a point. -/
  fraction : Option (List Char)
  /-- Whether the exponent has a minus sign, and its digits, if there is an exponent. -/
  exponent : Option (Bool × List Char)

namespace Numeral

/-- The largest significand. -/
def wordMax : Nat := Nat.pow 2 64 - 1

/-- Appends digits to a significand while it fits; the second part is the digits left over. -/
def takeDigits (significand : Nat) : List Char → Nat × List Char
  | [] => (significand, [])
  | d :: ds =>
      let next := significand * 10 + Text.digitValue d
      if next ≤ wordMax then takeDigits next ds else (significand, d :: ds)

/-- A power of ten up to `10^308`. -/
def powerOfTen (n : Nat) : Float := Float.ofScientific 1 false n

/-- A double divided by a power of ten, in steps of at most `10^308`. -/
def scaleDown (x : Float) (n : Nat) : Float :=
  if n ≤ 308 then x / powerOfTen n
  else if x == 0.0 then x
  else scaleDown (x / powerOfTen 308) (n - 308)
termination_by n

/-- The double `significand · 10^exponent`, unless it is too large. -/
def scale? (significand : Nat) (exponent : Int) : Option Float :=
  let x := significand.toUInt64.toFloat
  if exponent < 0 then some (scaleDown x exponent.natAbs)
  else if exponent.toNat ≤ 308 then
    let y := x * powerOfTen exponent.toNat
    if y.isInf then none else some y
  else if x == 0.0 then some x
  else none

/-- The largest exponent that is computed with. -/
def exponentMax : Nat := Nat.pow 2 31 - 1

/-- The magnitude of a number that is not a whole number of 64 bits. -/
def magnitude? (s : Spelling) : Option Float :=
  let (significand, left) := takeDigits 0 s.whole
  let (significand, shift) :=
    match s.fraction with
    | none => (significand, (left.length : Int))
    | some digits =>
        let (longer, rest) := takeDigits significand digits
        (longer, (left.length : Int) - (digits.length - rest.length : Nat))
  match s.exponent with
  | none => scale? significand shift
  | some (isNegative, digits) =>
      let n := Text.digitsValue digits
      if n ≤ exponentMax then scale? significand (if isNegative then shift - n else shift + n)
      else if isNegative || significand == 0 then some 0.0
      else none

/-- The value of a number that does not fit 64 bits or is not spelled as a whole number. -/
def floating? (s : Spelling) : Option Numeral :=
  (magnitude? s).map fun x => .floating (if s.isNegative then -x else x)

/-- The value of a number, unless it is too large. -/
def ofSpelling? (s : Spelling) : Option Numeral :=
  let n := Text.digitsValue s.whole
  if s.fraction.isSome || s.exponent.isSome || wordMax < n then floating? s
  else if !s.isNegative then some (.natural n)
  else if 0 < n && n ≤ Nat.pow 2 63 then some (.negative n)
  else floating? s

end Numeral

end BeanMapper.Json
