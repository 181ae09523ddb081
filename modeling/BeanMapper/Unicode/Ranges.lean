/-!
# Sets of code points — membership in a list of ranges

    The properties of characters that the library needs are data of the
    Unicode standard.  Each is kept as a list of closed ranges of code points
    in ascending order, and `inRanges` is the one test on such a list.

    All lists are those of version 15.0 of the standard.  A character that was
    assigned later is in none of them but those of the unassigned code points.
-/

namespace BeanMapper.Unicode

/-- Whether a code point lies in one of the closed ranges `(first, last)`. -/
def inRanges (ranges : List (Nat × Nat)) (n : Nat) : Bool :=
  ranges.any fun r => r.1 ≤ n && n ≤ r.2

theorem inRanges_eq_true_iff {ranges : List (Nat × Nat)} {n : Nat} :
    inRanges ranges n = true ↔ ∃ r ∈ ranges, r.1 ≤ n ∧ n ≤ r.2 := by
  simp [inRanges]

/-- Whether the ranges of two sets lie apart. -/
def liesApart (ranges others : List (Nat × Nat)) : Bool :=
  ranges.all fun r => others.all fun s => Nat.blt r.2 s.1 || Nat.blt s.2 r.1

/-- A code point of one set is not in another one if their ranges lie apart. -/
theorem inRanges_eq_false_of_apart {ranges others : List (Nat × Nat)} {n : Nat}
    (hapart : liesApart ranges others = true) (h : inRanges ranges n = true) :
    inRanges others n = false := by
  simp only [liesApart, List.all_eq_true, Bool.or_eq_true, Nat.blt_eq] at hapart
  rw [← Bool.not_eq_true, inRanges_eq_true_iff]
  obtain ⟨r, hr, hrange⟩ := inRanges_eq_true_iff.1 h
  rintro ⟨s, hs, hother⟩
  rcases hapart r hr s hs with hbefore | hbehind
  · omega
  · omega

end BeanMapper.Unicode
