import BeanMapper.Proofs.Text.Lines

/-!
# Offsets — where positions stand in a text

    A position with a line of the text has an offset, and at that offset the
    text is cut: behind as many newlines as the line has before it, and behind
    as many of the line's characters as the position asks for or the line has
    without its carriage return (`standsAt_of_toOffset?`).  The position of the
    end of a line has the offset behind all of them, unless the line is too
    long to be counted (`standsAt_of_endOfLine?`). -/

namespace BeanMapper

namespace Text

/-- At a byte offset a text is cut behind a number of newlines and, on the line that starts there,
    behind a number of characters. -/
def StandsAt (cs : List Char) (offset line character : Nat) : Prop :=
  ∃ before after, splitAt? offset cs = some (before, after)
    ∧ before.count '\n' = line ∧ (lastLine before).length = character

/-- The number of characters that a line has without a carriage return at its end. -/
def lineWidth (cs : List Char) (line : Nat) : Nat :=
  (withoutReturn ((splitLines cs)[line]?.getD [])).length

theorem length_le_byteLength (cs : List Char) : cs.length ≤ byteLength cs := by
  induction cs with
  | nil => exact Nat.le_refl 0
  | cons c cs ih =>
      have := Char.utf8Size_pos c
      rw [List.length_cons, byteLength_cons]
      omega

theorem splitLines_getElem?_eq_none_iff {cs : List Char} {i : Nat} :
    (splitLines cs)[i]? = none ↔ cs.count '\n' < i := by
  rw [List.getElem?_eq_none_iff, length_splitLines]
  omega

theorem lineWidth_le (cs : List Char) (i : Nat) : lineWidth cs i ≤ byteLength cs := by
  rw [lineWidth]
  cases hline : (splitLines cs)[i]? with
  | none => exact Nat.zero_le _
  | some line =>
      obtain ⟨before, after, haround, -, -⟩ := exists_aroundLine hline
      have htext := congrArg List.length haround.text_eq
      simp only [List.length_append] at htext
      have hwidth := (withoutReturn_isPrefix line).length_le
      have hbytes := length_le_byteLength cs
      rw [Option.getD_some]
      omega

end Text

namespace Position

open Text

variable {source : String} {p : Position} {line : UInt32} {offset : Nat}

/-- A position has no offset exactly if its line is past the end of the text. -/
theorem toOffset?_eq_none_iff :
    p.toOffset? source = none ↔ source.toList.count '\n' < p.line.toNat := by
  rw [toOffset?, Option.map_eq_none_iff, splitLines_getElem?_eq_none_iff]

/-- **The offset of a position cuts the text on its line**, behind characters that the line has
    without its carriage return. -/
theorem exists_cut_of_toOffset? (h : p.toOffset? source = some offset) :
    ∃ before line after, AroundLine source.toList before line after
      ∧ (splitLines source.toList)[p.line.toNat]? = some line
      ∧ before.count '\n' = p.line.toNat
      ∧ byteLength (before ++ (withoutReturn line).take p.character.toNat) = offset := by
  obtain ⟨line, hline, hoffset⟩ := Option.map_eq_some_iff.mp h
  obtain ⟨before, after, haround, hcount, hbytes⟩ := exists_aroundLine hline
  refine ⟨before, line, after, haround, hline, hcount, ?_⟩
  rw [byteLength_append, hbytes, hoffset]

/-- **Where a position stands.** -/
theorem standsAt_of_toOffset? (h : p.toOffset? source = some offset) :
    StandsAt source.toList offset p.line.toNat
      (min p.character.toNat (lineWidth source.toList p.line.toNat)) := by
  obtain ⟨before, line, after, haround, hline, hcount, rfl⟩ := exists_cut_of_toOffset? h
  obtain ⟨rest, hcut⟩ := haround.exists_splitAt? p.character.toNat
  refine ⟨_, rest, hcut, ?_, ?_⟩
  · rw [haround.count_cut, hcount]
  · rw [haround.lastLine_cut, List.length_take, lineWidth, hline, Option.getD_some]

/-- **The offset of a position parts no line end**, and the text can be cut there. -/
theorem exists_splitAt?_of_toOffset? (h : p.toOffset? source = some offset) :
    ∃ before after, splitAt? offset source.toList = some (before, after) ∧ ¬ Parts before after := by
  obtain ⟨before, line, after, haround, -, -, rfl⟩ := exists_cut_of_toOffset? h
  obtain ⟨rest, hcut⟩ := haround.exists_splitAt? p.character.toNat
  exact ⟨_, rest, hcut, haround.not_parts (append_of_splitAt? hcut)⟩

/-- The end of a line has no offset exactly if there is no such line. -/
theorem endOfLine?_bind_eq_none_iff :
    (endOfLine? source line).bind (·.toOffset? source) = none
      ↔ source.toList.count '\n' < line.toNat := by
  rw [endOfLine?]
  cases hline : (splitLines source.toList)[line.toNat]? with
  | none => simpa using splitLines_getElem?_eq_none_iff.mp hline
  | some text =>
      rw [Option.map_some, Option.bind_some, toOffset?_eq_none_iff]

/-- **Where the end of a line stands**, in a text whose bytes can be counted. -/
theorem standsAt_of_endOfLine? (hsize : byteLength source.toList < 2 ^ 32)
    (h : (endOfLine? source line).bind (·.toOffset? source) = some offset) :
    StandsAt source.toList offset line.toNat (lineWidth source.toList line.toNat) := by
  obtain ⟨p, hp, hoffset⟩ := Option.bind_eq_some_iff.mp h
  obtain ⟨text, htext, rfl⟩ := Option.map_eq_some_iff.mp hp
  have hwidth : lineWidth source.toList line.toNat = (withoutReturn text).length := by
    rw [lineWidth, htext, Option.getD_some]
  have hle := lineWidth_le source.toList line.toNat
  have hcharacter : (UInt32.ofNat (withoutReturn text).length).toNat
      = (withoutReturn text).length := UInt32.toNat_ofNat_of_lt' (by
    rw [UInt32.size]
    omega)
  have hstands := standsAt_of_toOffset? hoffset
  rwa [hcharacter, hwidth, Nat.min_self, ← hwidth] at hstands

end Position

end BeanMapper
