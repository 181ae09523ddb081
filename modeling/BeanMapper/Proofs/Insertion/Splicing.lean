import BeanMapper.Insertion
import BeanMapper.Proofs.Text.Lines

/-!
# Splicing — what an insertion does to a document

    An insertion cuts the document in two and puts the fitted snippet between
    the halves (`insert_eq_ok_iff`), so taking the inserted bytes out again
    gives the document back (`without?_of_insert`).  If the cut parts no
    carriage return from the newline behind it, every such pair is still there
    afterwards, where it was or as far behind it as bytes were inserted
    (`lineEndAt_of_insert`). -/

namespace BeanMapper

namespace Text

/-- A text without the bytes between two offsets, if both are character boundaries. -/
def without? (start stop : Nat) (cs : List Char) : Option (List Char) := do
  let (before, rest) ← splitAt? start cs
  let (_, after) ← splitAt? (stop - start) rest
  return before ++ after

/-- What is put between two parts of a text can be taken out again. -/
theorem without?_middle (a b c : List Char) :
    without? (byteLength a) (byteLength a + byteLength b) (a ++ b ++ c) = some (a ++ c) := by
  rw [without?, List.append_assoc, splitAt?_append]
  simp only [Option.bind_eq_bind, Option.bind_some, Nat.add_sub_cancel_left, splitAt?_append]
  rfl

/-- A carriage return and a newline behind it stand at a byte offset of a text. -/
def LineEndAt (cs : List Char) (offset : Nat) : Prop :=
  ∃ before after, splitAt? offset cs = some (before, '\r' :: '\n' :: after)

/-- A line that ends in a text ends there whatever follows. -/
theorem LineEndAt.append_right {a : List Char} {n : Nat} (h : LineEndAt a n) (b : List Char) :
    LineEndAt (a ++ b) n := by
  obtain ⟨before, after, hcut⟩ := h
  refine ⟨before, after ++ b, ?_⟩
  rw [← append_of_splitAt? hcut, ← byteLength_of_splitAt? hcut, List.append_assoc]
  exact splitAt?_append _ _

/-- A line that ends behind a text ends later by the length of that text. -/
theorem LineEndAt.append_left {b : List Char} {n : Nat} (h : LineEndAt b n) (a : List Char) :
    LineEndAt (a ++ b) (byteLength a + n) := by
  obtain ⟨before, after, hcut⟩ := h
  refine ⟨a ++ before, after, ?_⟩
  rw [← append_of_splitAt? hcut, ← byteLength_of_splitAt? hcut, ← List.append_assoc,
    ← byteLength_append]
  exact splitAt?_append _ _

theorem LineEndAt.lt_byteLength {a : List Char} {n : Nat} (h : LineEndAt a n) :
    n < byteLength a := by
  obtain ⟨before, after, hcut⟩ := h
  have := Char.utf8Size_pos '\r'
  rw [← append_of_splitAt? hcut, ← byteLength_of_splitAt? hcut, byteLength_append, byteLength_cons]
  omega

/-- A pair stands in one half of a text that does not part it. -/
theorem lineEndAt_append_cases {a b : List Char} {n : Nat} (h : LineEndAt (a ++ b) n)
    (hparts : ¬ Parts a b) : LineEndAt a n ∨ ∃ m, n = byteLength a + m ∧ LineEndAt b m := by
  obtain ⟨before, after, hcut⟩ := h
  have hbytes := byteLength_of_splitAt? hcut
  subst hbytes
  rcases List.append_eq_append_iff.mp (append_of_splitAt? hcut) with ⟨m, rfl, hm⟩ | ⟨m, rfl, hm⟩
  · -- `m` is what the first half has behind the place of the pair
    rcases m with - | ⟨c, - | ⟨d, m⟩⟩
    · obtain rfl : '\r' :: '\n' :: after = b := hm
      exact .inr ⟨0, by simp, [], after, rfl⟩
    · obtain ⟨rfl, hb⟩ := List.cons.inj hm
      obtain rfl : '\n' :: after = b := hb
      exact absurd ⟨by simp, rfl⟩ hparts
    · obtain ⟨rfl, hb⟩ := List.cons.inj hm
      obtain ⟨rfl, -⟩ := List.cons.inj hb
      exact .inl ⟨before, m, splitAt?_append _ _⟩
  · refine .inr ⟨byteLength m, byteLength_append _ _, m, after, ?_⟩
    rw [hm]
    exact splitAt?_append _ _

/-- **A pair stays together** where the halves of a text are moved apart and do not part it. -/
theorem LineEndAt.move {before after : List Char} {n : Nat} (h : LineEndAt (before ++ after) n)
    (hparts : ¬ Parts before after) (inserted : List Char) :
    LineEndAt (before ++ inserted ++ after)
      (if n < byteLength before then n else n + byteLength inserted) := by
  rcases lineEndAt_append_cases h hparts with hfirst | ⟨m, rfl, hsecond⟩
  · rw [if_pos hfirst.lt_byteLength]
    exact (hfirst.append_right inserted).append_right after
  · have hbytes : byteLength before + m + byteLength inserted
        = byteLength (before ++ inserted) + m := by
      rw [byteLength_append]
      omega
    rw [if_neg (by omega), hbytes]
    exact hsecond.append_left (before ++ inserted)

end Text

namespace Insertion

open Text

variable {document snippet : String} {unit : Option String} {offset n : Nat} {i : Insertion}

/-- **What an insertion gives**: the document is cut at the offset, and the fitted snippet stands
    between the halves. -/
theorem insert_eq_ok_iff :
    insert document offset snippet unit = .ok i ↔
      ∃ before after, splitAt? offset document.toList = some (before, after)
        ∧ i = ⟨String.ofList (before ++ fit before after snippet.toList unit ++ after), offset,
            offset + byteLength (fit before after snippet.toList unit)⟩ := by
  rw [insert]
  cases splitAt? offset document.toList with
  | none => simp
  | some parts =>
      constructor
      · intro h
        exact ⟨_, _, rfl, (Except.ok.inj h).symm⟩
      · rintro ⟨before, after, hparts, rfl⟩
        cases hparts
        rfl

/-- What was inserted is found where it was put. -/
theorem slice_spliced (before inserted after : List Char) :
    slice (String.ofList (before ++ inserted ++ after)).toList (byteLength before)
      (byteLength before + byteLength inserted) = inserted := by
  rw [String.toList_ofList, List.append_assoc, slice_middle]

/-- **What was inserted** stands between the offsets of the insertion. -/
theorem slice_of_insert (h : insert document offset snippet unit = .ok i) :
    ∃ before after, splitAt? offset document.toList = some (before, after)
      ∧ slice i.text.toList i.start i.stop = fit before after snippet.toList unit := by
  obtain ⟨before, after, hcut, rfl⟩ := insert_eq_ok_iff.mp h
  have hbytes := byteLength_of_splitAt? hcut
  subst hbytes
  exact ⟨before, after, hcut, slice_spliced _ _ _⟩

/-- Taking out what was inserted gives the document back. -/
theorem without?_of_insert (h : insert document offset snippet unit = .ok i) :
    without? i.start i.stop i.text.toList = some document.toList := by
  obtain ⟨before, after, hcut, rfl⟩ := insert_eq_ok_iff.mp h
  have hbytes := byteLength_of_splitAt? hcut
  subst hbytes
  rw [String.toList_ofList, without?_middle, append_of_splitAt? hcut]

theorem start_of_insert (h : insert document offset snippet unit = .ok i) : i.start = offset := by
  obtain ⟨before, after, -, rfl⟩ := insert_eq_ok_iff.mp h
  rfl

/-- **The line ends of a document survive** an insertion that parts none of them. -/
theorem lineEndAt_of_insert (h : insert document offset snippet unit = .ok i)
    (hparts : ∀ before after, splitAt? offset document.toList = some (before, after) →
      ¬ Parts before after)
    (hn : LineEndAt document.toList n) :
    LineEndAt i.text.toList (if n < i.start then n else n + (i.stop - i.start)) := by
  obtain ⟨before, after, hcut, rfl⟩ := insert_eq_ok_iff.mp h
  have hbytes := byteLength_of_splitAt? hcut
  subst hbytes
  rw [← append_of_splitAt? hcut] at hn
  rw [String.toList_ofList, Nat.add_sub_cancel_left]
  exact hn.move (hparts before after hcut) _

end Insertion

end BeanMapper
