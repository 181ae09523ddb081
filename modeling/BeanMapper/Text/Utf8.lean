/-!
# UTF-8 — byte offsets in a text

    Offsets count the bytes of a text in UTF-8.  `splitAt?` cuts a text at a
    byte offset and refuses an offset past the end or inside a character, so
    "is a character boundary" is "can be cut at".
-/

namespace BeanMapper.Text

/-- The number of bytes of a text. -/
def byteLength : List Char → Nat
  | [] => 0
  | c :: cs => c.utf8Size + byteLength cs

@[simp] theorem byteLength_nil : byteLength [] = 0 := rfl

@[simp] theorem byteLength_cons (c : Char) (cs : List Char) :
    byteLength (c :: cs) = c.utf8Size + byteLength cs := rfl

@[simp] theorem byteLength_append (a b : List Char) :
    byteLength (a ++ b) = byteLength a + byteLength b := by
  induction a with
  | nil => rw [List.nil_append, byteLength_nil, Nat.zero_add]
  | cons c a ih => rw [List.cons_append, byteLength_cons, byteLength_cons, ih, Nat.add_assoc]

/-- Cuts a text at a byte offset, unless the offset is past the end or inside a character. -/
def splitAt? : Nat → List Char → Option (List Char × List Char)
  | 0, cs => some ([], cs)
  | _ + 1, [] => none
  | n + 1, c :: cs =>
      if c.utf8Size ≤ n + 1 then
        (splitAt? (n + 1 - c.utf8Size) cs).map fun p => (c :: p.1, p.2)
      else
        none

/-- The part of a text between two byte offsets, empty unless both are character boundaries. -/
def slice (cs : List Char) (start stop : Nat) : List Char :=
  match splitAt? start cs with
  | none => []
  | some (_, rest) => ((splitAt? (stop - start) rest).map Prod.fst).getD []

/-- A cut loses nothing. -/
theorem append_of_splitAt? {n : Nat} {cs a b : List Char} (h : splitAt? n cs = some (a, b)) :
    a ++ b = cs := by
  induction cs generalizing n a b with
  | nil =>
      cases n with
      | zero => simp_all [splitAt?]
      | succ n => simp [splitAt?] at h
  | cons c cs ih =>
      cases n with
      | zero => simp_all [splitAt?]
      | succ n =>
          simp only [splitAt?] at h
          split at h
          · obtain ⟨p, hp, he⟩ := Option.map_eq_some_iff.1 h
            cases he
            simp [ih hp]
          · exact nomatch h

/-- The first part of a cut has as many bytes as the offset says. -/
theorem byteLength_of_splitAt? {n : Nat} {cs a b : List Char}
    (h : splitAt? n cs = some (a, b)) : byteLength a = n := by
  induction cs generalizing n a b with
  | nil =>
      cases n with
      | zero => simp_all [splitAt?]
      | succ n => simp [splitAt?] at h
  | cons c cs ih =>
      cases n with
      | zero => simp_all [splitAt?]
      | succ n =>
          simp only [splitAt?] at h
          split at h
          · obtain ⟨p, hp, he⟩ := Option.map_eq_some_iff.1 h
            cases he
            have := ih hp
            simp
            omega
          · exact nomatch h

/-- A text can be cut after each of its beginnings. -/
theorem splitAt?_append (a b : List Char) : splitAt? (byteLength a) (a ++ b) = some (a, b) := by
  induction a with
  | nil => cases b <;> rfl
  | cons c a ih =>
      have hpos := Char.utf8Size_pos c
      obtain ⟨k, hk⟩ : ∃ k, byteLength (c :: a) = k + 1 :=
        ⟨byteLength (c :: a) - 1, by simp; omega⟩
      have hle : c.utf8Size ≤ k + 1 := by rw [← hk]; simp
      have hrest : k + 1 - c.utf8Size = byteLength a := by rw [← hk]; simp
      rw [hk, List.cons_append, splitAt?, if_pos hle, hrest, ih]
      rfl

/-- What stands between two other parts of a text is the slice behind the first one. -/
theorem slice_middle (before middle after : List Char) :
    slice (before ++ (middle ++ after)) (byteLength before)
      (byteLength before + byteLength middle) = middle := by
  rw [slice, splitAt?_append]
  dsimp only
  rw [Nat.add_sub_cancel_left, splitAt?_append]
  rfl

end BeanMapper.Text
