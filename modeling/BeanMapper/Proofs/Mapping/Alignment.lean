import BeanMapper.Mapping.Table
import BeanMapper.Proofs.Position.Offsets
import Mathlib.Data.List.Forall2

/-!
# Alignment — the arrows of a table of setters stand in one column

    The column of setters is as wide as the largest number of bytes of a
    setter (`isLargest_width`), but a setter is padded by its characters.  It
    never has more characters than bytes, so its padding fills the column
    exactly (`length_pad`), and the arrow stands two characters behind it in
    every line (`rows_are_aligned`). -/

namespace BeanMapper.Table

variable {n : Nat} {cs : List Char}

/-- A number of bytes is the largest one that a setter has; without setters it is zero. -/
structure IsLargest (n : Nat) (ms : List SetterMatch) : Prop where
  /-- No setter has more bytes. -/
  bounds : ∀ m ∈ ms, Text.byteLength m.setter.toList ≤ n
  /-- Some setter has as many. -/
  attained : ms = [] ∧ n = 0 ∨ ∃ m ∈ ms, Text.byteLength m.setter.toList = n

/-- The width of the column of setters is the largest number of bytes of a setter. -/
theorem isLargest_width (ms : List SetterMatch) : IsLargest (width ms) ms := by
  have hwidth : width ms
      = ((ms.map fun m => Text.byteLength m.setter.toList).max?).getD 0 :=
    (List.foldl_max (a := 0)).trans (Nat.zero_max _)
  cases hmax : (ms.map fun m => Text.byteLength m.setter.toList).max? with
  | none =>
      rw [List.max?_eq_none_iff, List.map_eq_nil_iff] at hmax
      subst hmax
      exact ⟨fun m hm => (nomatch hm), .inl ⟨rfl, rfl⟩⟩
  | some n =>
      obtain ⟨hmem, hbounds⟩ := List.max?_eq_some_iff.mp hmax
      rw [hwidth, hmax, Option.getD_some]
      refine ⟨fun m hm => hbounds _ (List.mem_map_of_mem hm), .inr ?_⟩
      exact List.mem_map.mp hmem

/-- A text with no more bytes than there is room for is padded to fill the room with characters. -/
theorem length_pad (h : Text.byteLength cs ≤ n) : (pad n cs).length = n := by
  have hlength := Text.length_le_byteLength cs
  rw [pad, List.length_append, List.length_replicate]
  omega

/-- A line of the table has its arrow in a column, behind its setter and blanks, and behind the
    arrow a blank and its value. -/
structure Aligned (column : Nat) (setter value : List Char) (text : List Char) : Prop where
  /-- The arrow stands in the column. -/
  arrow : text[column]? = some '←'
  /-- The line starts with the setter, in front of the arrow. -/
  begins : setter <+: text.take column
  /-- Only blanks stand between the setter and the arrow. -/
  blanks : ∀ c ∈ (text.take column).drop setter.length, c = ' '
  /-- Behind the arrow a blank and the value end the line. -/
  ends : text.drop (column + 1) = ' ' :: value

/-- The line of a setter that fits into the column is aligned to the arrow behind it. -/
theorem aligned_row {m : SetterMatch} (h : Text.byteLength m.setter.toList ≤ n)
    (nullLabel : String) :
    Aligned (n + 2) m.setter.toList (m.field.getD nullLabel).toList
      (row n nullLabel m).toList := by
  have hline : (row n nullLabel m).toList
      = (pad n m.setter.toList ++ [' ', ' '])
        ++ '←' :: ' ' :: (m.field.getD nullLabel).toList := by
    simp [row]
  have hlength : (pad n m.setter.toList ++ [' ', ' ']).length = n + 2 := by
    rw [List.length_append, length_pad h]
    rfl
  have htake : (row n nullLabel m).toList.take (n + 2) = pad n m.setter.toList ++ [' ', ' '] := by
    rw [hline, ← hlength, List.take_left]
  refine ⟨?arrow, ?begins, ?blanks, ?ends⟩
  case arrow => rw [hline, List.getElem?_append_right hlength.le, hlength, Nat.sub_self]; rfl
  case begins =>
    rw [htake, pad, List.append_assoc]
    exact List.prefix_append _ _
  case blanks =>
    rw [htake, pad, List.append_assoc, List.drop_left]
    intro c hc
    rcases List.mem_append.mp hc with hc | hc
    · exact List.eq_of_mem_replicate hc
    · simpa using hc
  case ends =>
    rw [hline, List.drop_append, hlength]
    simp [length_pad h]

/-- **The arrows of a table stand in one column.**  There is one line for each setter, in their
    order, and in every line the arrow stands two characters behind the largest number of bytes
    that a setter has: in front of it the line holds the setter and blanks, and behind it a blank
    and the field of the setter or the label in its place. -/
theorem rows_are_aligned (ms : List SetterMatch) (nullLabel : String) :
    ∃ widest, IsLargest widest ms
      ∧ List.Forall₂ (fun m line => Aligned (widest + 2) m.setter.toList
        (m.field.getD nullLabel).toList line.toList) ms (rows ms nullLabel) := by
  have hlargest := isLargest_width ms
  refine ⟨width ms, hlargest, ?_⟩
  rw [rows, List.forall₂_map_right_iff, List.forall₂_same]
  intro m hm
  exact aligned_row (hlargest.bounds m hm) nullLabel

/-- A setter of five characters and six bytes is padded by one blank more than its bytes ask for. -/
example : rows [⟨"setÉt", some "ét"⟩, ⟨"setAbc", none⟩] "null"
    = ["setÉt   ← ét", "setAbc  ← null"] := by decide +kernel

end BeanMapper.Table
