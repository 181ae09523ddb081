/-!
# Dotted names — segments and suffixes of a name

    A dotted name is a list of segments with dots between them, and any text
    is one: segments may be empty.  A suffix starts at the beginning of the
    name or right after one of its dots, so it is a dotted name again.
-/

namespace BeanMapper.Text

/-- The parts of a name that start right after one of its dots, longest first. -/
def afterDots : List Char → List (List Char)
  | [] => []
  | c :: cs => if c = '.' then cs :: afterDots cs else afterDots cs

/-- A name and every shorter suffix of it that starts after a dot, longest first. -/
def dottedSuffixes (cs : List Char) : List (List Char) := cs :: afterDots cs

/-- The part of a name after its last dot. -/
def lastSegment (cs : List Char) : List Char := (cs.reverse.takeWhile (· ≠ '.')).reverse

/-- A name has one suffix more than it has dots. -/
theorem length_dottedSuffixes (cs : List Char) :
    (dottedSuffixes cs).length = cs.count '.' + 1 := by
  have h : (afterDots cs).length = cs.count '.' := by
    induction cs with
    | nil => rfl
    | cons c cs ih => by_cases h : c = '.' <;> simp [afterDots, h, ih]
  simp [dottedSuffixes, h]

/-- What follows a dot is a proper suffix with a dot before it. -/
theorem mem_afterDots_iff {cs s : List Char} : s ∈ afterDots cs ↔ ('.' :: s) <:+ cs := by
  induction cs with
  | nil => simp [afterDots]
  | cons c cs ih =>
      by_cases h : c = '.'
      · simp [afterDots, h, ih, List.suffix_cons_iff]
      · simp only [afterDots, h, if_false, ih, List.suffix_cons_iff, List.cons.injEq]
        exact ⟨Or.inr, fun hs => hs.elim (fun he => absurd he.1.symm h) id⟩

end BeanMapper.Text
