import BeanMapper.Text.Split
import Mathlib.Data.List.Basic

/-!
# Parts — cutting at a separator and joining again

    Cutting at a separator and joining with one are the list operations of
    those kinds (`splitOn_eq`, `joinWith_eq`), so a separator parts a text
    whatever stands on its sides (`splitOn_append`), and joined parts are cut
    apart again if none of them holds the separator (`splitOn_joinWith`); no
    part of a text does (`notMem_of_mem_splitOn`).  Fewer parts are joined to
    a beginning of the text (`joinWith_isPrefix`), and to a shorter one if
    anything is left out (`length_joinWith_lt`).  A filter does not see that
    what it would not keep is dropped at the front (`filter_dropWhile_of`). -/

namespace BeanMapper.Text

variable {x : Char} {cs part : List Char} {parts before behind : List (List Char)}

/-! ## Cutting -/

/-- The parts of a text are what a list is split into at an element. -/
theorem splitOn_eq (x : Char) (cs : List Char) : splitOn x cs = cs.splitOn x := by
  induction cs with
  | nil => rfl
  | cons c cs ih =>
      rw [splitOn, List.splitOn_cons_eq_if_modifyHead, ← ih]
      by_cases hc : c = x
      · rw [if_pos hc, if_pos (beq_iff_eq.mpr hc)]
      · rw [if_neg hc, if_neg (beq_iff_eq.not.mpr hc)]
        obtain ⟨first, rest, hparts⟩ := List.exists_cons_of_ne_nil (splitOn_ne_nil x cs)
        rw [hparts]
        rfl

/-- **A separator parts a text**, whatever stands on its sides. -/
theorem splitOn_append (x : Char) (a b : List Char) :
    splitOn x (a ++ x :: b) = splitOn x a ++ splitOn x b := by
  simp only [splitOn_eq, List.splitOn_append_cons_self]

/-- A text without the separator is its only part. -/
theorem splitOn_of_notMem (h : x ∉ cs) : splitOn x cs = [cs] := by
  rw [splitOn_eq, List.splitOn_eq_singleton h]

/-- No part holds the separator. -/
theorem notMem_of_mem_splitOn (h : part ∈ splitOn x cs) : x ∉ part := by
  induction cs generalizing part with
  | nil =>
      rw [splitOn, List.mem_singleton] at h
      exact h ▸ List.not_mem_nil
  | cons c cs ih =>
      rw [splitOn] at h
      by_cases hc : c = x
      · rw [if_pos hc] at h
        rcases List.mem_cons.mp h with rfl | hrest
        · exact List.not_mem_nil
        · exact ih hrest
      · obtain ⟨first, rest, hparts⟩ := List.exists_cons_of_ne_nil (splitOn_ne_nil x cs)
        rw [hparts] at ih
        rw [if_neg hc, hparts] at h
        rcases List.mem_cons.mp h with rfl | hrest
        · exact List.mem_cons.not.mpr (not_or.mpr ⟨Ne.symm hc, ih List.mem_cons_self⟩)
        · exact ih (List.mem_cons_of_mem _ hrest)

/-! ## Joining -/

/-- Parts are joined by putting the separator between them. -/
theorem joinWith_eq (x : Char) (parts : List (List Char)) :
    joinWith x parts = [x].intercalate parts := by
  induction parts with
  | nil => rfl
  | cons first rest ih =>
      cases rest with
      | nil => rw [joinWith, List.flatMap_nil, List.append_nil, List.intercalate_singleton]
      | cons second rest => rw [List.intercalate_cons_cons, ← ih]; simp [joinWith]

/-- **Joined parts are cut apart again**, if none of them holds the separator. -/
theorem splitOn_joinWith (hparts : parts ≠ []) (h : ∀ part ∈ parts, x ∉ part) :
    splitOn x (joinWith x parts) = parts := by
  rw [splitOn_eq, joinWith_eq, List.splitOn_intercalate x h hparts]

/-- Two rows of parts are joined with a separator in between. -/
theorem joinWith_append (x : Char) (hbefore : before ≠ []) (hbehind : behind ≠ []) :
    joinWith x (before ++ behind) = joinWith x before ++ x :: joinWith x behind := by
  obtain ⟨first, rest, rfl⟩ := List.exists_cons_of_ne_nil hbefore
  obtain ⟨next, others, rfl⟩ := List.exists_cons_of_ne_nil hbehind
  simp [joinWith]

theorem joinWith_ne_nil (hmem : part ∈ parts) (hpart : part ≠ []) : joinWith x parts ≠ [] := by
  obtain ⟨front, back, rfl⟩ := List.append_of_mem hmem
  cases front with
  | nil => simp [joinWith, hpart]
  | cons first front => simp [joinWith]

/-- The first parts of a text are joined to a beginning of it. -/
theorem joinWith_isPrefix (x : Char) (before behind : List (List Char)) :
    joinWith x before <+: joinWith x (before ++ behind) := by
  by_cases hbehind : behind = []
  · simp [hbehind]
  · by_cases hbefore : before = []
    · rw [hbefore]
      exact List.nil_prefix
    · rw [joinWith_append x hbefore hbehind]
      exact List.prefix_append _ _

/-- A text gets shorter if a part that is not empty is left out with all parts behind it. -/
theorem length_joinWith_lt (hmem : part ∈ behind) (hpart : part ≠ []) :
    (joinWith x before).length < (joinWith x (before ++ behind)).length := by
  by_cases hbefore : before = []
  · -- nothing is left, and the part that is not empty was joined to something
    rw [hbefore, List.nil_append]
    exact List.length_pos_iff.mpr (joinWith_ne_nil hmem hpart)
  · rw [joinWith_append x hbefore (List.ne_nil_of_mem hmem), List.length_append, List.length_cons]
    omega

/-! ## Dropping -/

theorem filter_dropWhile_of {α : Type} {p q : α → Bool} (h : ∀ a, p a = true → q a = false)
    (l : List α) : (l.dropWhile p).filter q = l.filter q := by
  induction l with
  | nil => rfl
  | cons a l ih =>
      by_cases ha : p a = true
      · rw [List.dropWhile_cons_of_pos ha, ih, List.filter_cons_of_neg (by simp [h a ha])]
      · rw [List.dropWhile_cons_of_neg ha]

end BeanMapper.Text
