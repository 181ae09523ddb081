import BeanMapper.Position
import BeanMapper.Proofs.Text.Parts
import Mathlib.Algebra.Group.Nat.Defs
import Mathlib.Data.List.TakeWhile

/-!
# Lines — a text around one of its lines

    Three notions of a line have to fit together: the parts of a text between
    its newlines, the reader's lines, and the byte at which a line starts.

    * `exists_aroundLine` cuts a text around the line with a given index: as
      many newlines stand before it as the index says, and the part before it
      has as many bytes as `Position.lineStart` counts.
    * `exists_aroundLine_of_cut` is the other way round: every cut of a text
      is on one of its lines, behind what stands on it before the cut.
    * `AroundLine.not_parts` is the safety of such cuts: between the characters
      of a line without its carriage return no cut parts a carriage return
      from a newline.
    * `lines_getElem?_of_next` says that a line which has another one behind it
      is the same for the reader, but for its carriage return. -/

namespace BeanMapper.Text

variable {a b cs before line after : List Char} {i : Nat} {c : Char}

/-! ## The last line of a text -/

/-- Characters that are no newlines go on with the last line. -/
theorem lastLine_append_of_notMem (h : '\n' ∉ b) : lastLine (a ++ b) = lastLine a ++ b := by
  have hall : ∀ c ∈ b.reverse, decide (c ≠ '\n') = true := fun c hc =>
    decide_eq_true fun he => h (he ▸ List.mem_reverse.mp hc)
  rw [lastLine, List.reverse_append, List.takeWhile_append_of_pos hall, List.reverse_append,
    List.reverse_reverse, lastLine]

/-- What stands before a newline is not in the last line. -/
theorem lastLine_cons_of_mem (h : '\n' ∈ b) : lastLine (c :: b) = lastLine b := by
  have hstops : (b.reverse.takeWhile (· ≠ '\n')).length ≠ b.reverse.length := by
    intro hlength
    have hself := (List.takeWhile_prefix _).eq_of_length hlength
    have := List.takeWhile_eq_self_iff.mp hself '\n' (List.mem_reverse.mpr h)
    simp at this
  rw [lastLine, List.reverse_cons, List.takeWhile_append, if_neg hstops, lastLine]

/-- A text with a newline in it has its own last line, whatever stands before. -/
theorem lastLine_append_of_mem (h : '\n' ∈ b) : lastLine (a ++ b) = lastLine b := by
  induction a with
  | nil => rfl
  | cons c a ih =>
      rw [List.cons_append, lastLine_cons_of_mem (List.mem_append_right a h), ih]

/-- The last line of two texts is that of the second, behind that of the first if no newline stands
    between them. -/
theorem length_lastLine_append (a b : List Char) :
    (lastLine (a ++ b)).length
      = (lastLine b).length + if b.count '\n' = 0 then (lastLine a).length else 0 := by
  by_cases h : '\n' ∈ b
  · have hcount : b.count '\n' ≠ 0 := Nat.pos_iff_ne_zero.mp (List.count_pos_iff.mpr h)
    rw [lastLine_append_of_mem h, if_neg hcount, Nat.add_zero]
  · have hall : lastLine b = b := lastLine_append_of_notMem (a := []) h
    rw [lastLine_append_of_notMem h, hall, if_pos (List.count_eq_zero.mpr h), List.length_append,
      Nat.add_comm]

theorem lastLine_isSuffix (a : List Char) : lastLine a <:+ a := by
  have h := List.reverse_suffix.mpr (List.takeWhile_prefix (· ≠ '\n') (l := a.reverse))
  rwa [List.reverse_reverse] at h

theorem lastLine_concat_newline : lastLine (a ++ ['\n']) = [] := by
  simp [lastLine]

/-- A text of which the last line is empty is empty itself, or a newline stands at its end. -/
theorem eq_nil_or_concat_of_lastLine (h : lastLine a = []) : a = [] ∨ ∃ s, a = s ++ ['\n'] := by
  rcases a.eq_nil_or_concat with rfl | ⟨s, c, rfl⟩
  · exact .inl rfl
  · rw [List.concat_eq_append] at h ⊢
    by_cases hc : c = '\n'
    · exact .inr ⟨s, by rw [hc]⟩
    · rw [lastLine_append_of_notMem (by simpa using Ne.symm hc)] at h
      simp at h

/-! ## A text around a line -/

/-- A text is cut before and behind one of its lines. -/
structure AroundLine (cs before line after : List Char) : Prop where
  /-- Nothing is lost. -/
  text_eq : before ++ line ++ after = cs
  /-- The line starts where the text or a newline before it ends. -/
  starts : lastLine before = []
  /-- The line holds no newline. -/
  newline_notMem : '\n' ∉ line
  /-- The line stops at a newline or at the end of the text. -/
  stops : ∀ c ∈ after.head?, c = '\n'

namespace AroundLine

theorem cons_newline (h : AroundLine cs before line after) :
    AroundLine ('\n' :: cs) ('\n' :: before) line after where
  text_eq := congrArg ('\n' :: ·) h.text_eq
  starts := by
    rcases eq_nil_or_concat_of_lastLine h.starts with rfl | ⟨s, rfl⟩
    · rfl
    · exact lastLine_concat_newline (a := '\n' :: s)
  newline_notMem := h.newline_notMem
  stops := h.stops

theorem cons_before (h : AroundLine cs before line after) (hmem : '\n' ∈ before) (c : Char) :
    AroundLine (c :: cs) (c :: before) line after where
  text_eq := congrArg (c :: ·) h.text_eq
  starts := by rw [lastLine_cons_of_mem hmem, h.starts]
  newline_notMem := h.newline_notMem
  stops := h.stops

theorem cons_line (h : AroundLine cs [] line after) (hc : c ≠ '\n') :
    AroundLine (c :: cs) [] (c :: line) after where
  text_eq := congrArg (c :: ·) h.text_eq
  starts := rfl
  newline_notMem := by simpa using ⟨Ne.symm hc, h.newline_notMem⟩
  stops := h.stops

/-- No newline stands before the first line, so nothing does. -/
theorem before_eq_nil (h : AroundLine cs before line after) (hcount : before.count '\n' = 0) :
    before = [] := by
  rcases eq_nil_or_concat_of_lastLine h.starts with hnil | ⟨s, rfl⟩
  · exact hnil
  · simp at hcount

end AroundLine

/-- A newline at the beginning of a text ends an empty line. -/
theorem splitLines_newline (cs : List Char) : splitLines ('\n' :: cs) = [] :: splitLines cs := by
  rw [splitLines, splitOn, if_pos rfl, splitLines]

/-- Any other character goes to the first line. -/
theorem exists_splitLines_cons (hc : c ≠ '\n') (cs : List Char) :
    ∃ part rest, splitLines cs = part :: rest ∧ splitLines (c :: cs) = (c :: part) :: rest := by
  obtain ⟨part, rest, hparts⟩ := List.exists_cons_of_ne_nil (splitOn_ne_nil '\n' cs)
  refine ⟨part, rest, hparts, ?_⟩
  rw [splitLines, splitOn, if_neg hc, hparts]

/-- **Every line has its place.**  The text is cut around the line with an index, and the part before
    it has the newlines and the bytes that are counted for the index. -/
theorem exists_aroundLine (h : (splitLines cs)[i]? = some line) :
    ∃ before after, AroundLine cs before line after ∧ before.count '\n' = i
      ∧ byteLength before = Position.lineStart (splitLines cs) i := by
  induction cs generalizing i line with
  | nil =>
      cases i with
      | zero =>
          obtain rfl : [] = line := Option.some.inj h
          exact ⟨[], [], ⟨rfl, rfl, by simp, by simp⟩, rfl, rfl⟩
      | succ i => exact nomatch h
  | cons c cs ih =>
      by_cases hc : c = '\n'
      · subst hc
        rw [splitLines_newline] at h ⊢
        cases i with
        | zero =>
            obtain rfl : [] = line := Option.some.inj h
            exact ⟨[], '\n' :: cs, ⟨rfl, rfl, by simp, by simp⟩, rfl, rfl⟩
        | succ i =>
            obtain ⟨before, after, hline, hcount, hbytes⟩ := ih h
            refine ⟨'\n' :: before, after, hline.cons_newline, ?_, ?_⟩
            · rw [List.count_cons_self, hcount]
            · have hsize : Char.utf8Size '\n' = 1 := rfl
              rw [byteLength_cons, hbytes, Position.lineStart, Position.lineStart, hsize]
              simp
      · obtain ⟨part, rest, hparts, hsplit⟩ := exists_splitLines_cons hc cs
        rw [hsplit] at h ⊢
        cases i with
        | zero =>
            obtain rfl : c :: part = line := Option.some.inj h
            have hfirst : (splitLines cs)[0]? = some part := by rw [hparts]; rfl
            obtain ⟨before, after, hline, hcount, -⟩ := ih hfirst
            obtain rfl := hline.before_eq_nil hcount
            exact ⟨[], after, hline.cons_line hc, rfl, rfl⟩
        | succ i =>
            have hnext : (splitLines cs)[i + 1]? = some line := by rw [hparts]; exact h
            obtain ⟨before, after, hline, hcount, hbytes⟩ := ih hnext
            have hmem : '\n' ∈ before := List.count_pos_iff.mp (by omega)
            refine ⟨c :: before, after, hline.cons_before hmem c, ?_, ?_⟩
            · rw [List.count_cons_of_ne hc, hcount]
            · rw [byteLength_cons, hbytes, hparts, Position.lineStart, Position.lineStart]
              simp [Nat.add_assoc]

theorem newline_notMem_of_mem_splitLines (h : line ∈ splitLines cs) : '\n' ∉ line :=
  notMem_of_mem_splitOn h

/-- **Joined lines are cut into the same lines**, if none of them holds a newline. -/
theorem splitLines_joinWith {first : List Char} {rest : List (List Char)}
    (h : ∀ line ∈ first :: rest, '\n' ∉ line) :
    splitLines (joinWith '\n' (first :: rest)) = first :: rest :=
  splitOn_joinWith (List.cons_ne_nil first rest) h

/-- A text that is cut behind as many newlines as stand before one of its lines is cut on that line,
    behind what stands on the last line before the cut. -/
theorem AroundLine.exists_cut {start rest : List Char} (h : AroundLine cs start line rest)
    (hcut : before ++ after = cs) (hcount : before.count '\n' = start.count '\n') :
    ∃ more, start ++ lastLine before = before ∧ lastLine before ++ more = line
      ∧ more ++ rest = after := by
  have htext : start ++ (line ++ rest) = before ++ after := by
    rw [hcut, ← List.append_assoc, h.text_eq]
  obtain ⟨k, rfl, hk⟩ : ∃ k, before = start ++ k ∧ line ++ rest = k ++ after := by
    rcases List.append_eq_append_iff.mp htext with hbehind | ⟨k, rfl, hk⟩
    · exact hbehind
    · -- the line starts behind the cut, but no newline stands between them
      rw [List.count_append] at hcount
      have hplain : '\n' ∉ k := List.count_eq_zero.mp (by omega)
      have hstarts := h.starts
      rw [lastLine_append_of_notMem hplain, List.append_eq_nil_iff] at hstarts
      obtain rfl := hstarts.2
      exact ⟨[], by simp, by simpa using hk.symm⟩
  rw [List.count_append] at hcount
  have hplain : '\n' ∉ k := List.count_eq_zero.mp (by omega)
  have hlast : lastLine (start ++ k) = k := by
    rw [lastLine_append_of_notMem hplain, h.starts, List.nil_append]
  rw [hlast]
  rcases List.append_eq_append_iff.mp hk with ⟨m, rfl, hm⟩ | ⟨m, rfl, hm⟩
  · -- what stands behind the line starts with a newline, so none of it is before the cut
    cases m with
    | nil => exact ⟨[], rfl, by simp, by simpa using hm⟩
    | cons c m =>
        have hc : c = '\n' := h.stops c (by rw [hm]; rfl)
        exact absurd (by simp [hc]) hplain
  · exact ⟨m, rfl, rfl, hm.symm⟩

/-- **Every cut is on a line**: on the one with as many newlines before it as stand before the cut,
    behind what stands on the last line before the cut. -/
theorem exists_aroundLine_of_cut (hcut : before ++ after = cs) :
    ∃ start more rest, AroundLine cs start (lastLine before ++ more) rest
      ∧ (splitLines cs)[before.count '\n']? = some (lastLine before ++ more)
      ∧ byteLength start = Position.lineStart (splitLines cs) (before.count '\n')
      ∧ start ++ lastLine before = before ∧ more ++ rest = after := by
  have hcount : before.count '\n' < (splitLines cs).length := by
    rw [length_splitLines, ← hcut, List.count_append]
    omega
  have hline := List.getElem?_eq_getElem hcount
  obtain ⟨start, rest, haround, hstart, hbytes⟩ := exists_aroundLine hline
  obtain ⟨more, hbefore, hmore, hafter⟩ := haround.exists_cut hcut hstart.symm
  rw [← hmore] at hline haround
  exact ⟨start, more, rest, haround, hline, hbytes, hbefore, hafter⟩

/-- Where a newline comes first, nothing without newlines stands before it. -/
theorem eq_nil_of_head?_append (ha : '\n' ∉ a) (h : (a ++ b).head? = some '\n') : a = [] := by
  cases a with
  | nil => rfl
  | cons c a =>
      obtain rfl : c = '\n' := Option.some.inj h
      exact absurd List.mem_cons_self ha

/-! ## Carriage returns -/

/-- Cutting a text in two halves parts a carriage return from the newline behind it. -/
def Parts (before after : List Char) : Prop :=
  before.getLast? = some '\r' ∧ after.head? = some '\n'

/-- A line is its characters without the carriage return at its end, and that one. -/
theorem withoutReturn_cases (line : List Char) :
    (withoutReturn line = line ∧ line.getLast? ≠ some '\r')
      ∨ line = withoutReturn line ++ ['\r'] := by
  by_cases h : line.getLast? = some '\r'
  · right
    obtain ⟨s, rfl⟩ := List.getLast?_eq_some_iff.mp h
    rw [withoutReturn, dropLast, if_pos h, List.dropLast_concat]
  · exact .inl ⟨if_neg h, h⟩

theorem withoutReturn_isPrefix (line : List Char) : withoutReturn line <+: line := by
  rcases withoutReturn_cases line with h | h
  · exact ⟨[], by rw [h.1, List.append_nil]⟩
  · exact ⟨_, h.symm⟩

/-- In front of the last character of a line, its carriage return does not count. -/
theorem take_withoutReturn {k : Nat} (h : k < line.length) :
    (withoutReturn line).take k = line.take k := by
  rcases withoutReturn_cases line with hplain | hreturn
  · rw [hplain.1]
  · have hlength := congrArg List.length hreturn
    rw [List.length_append, List.length_singleton] at hlength
    calc (withoutReturn line).take k = (withoutReturn line ++ ['\r']).take k :=
          (List.take_append_of_le_length (by omega)).symm
      _ = line.take k := by rw [← hreturn]

namespace AroundLine

/-- A cut behind `k` of the characters that a line has without its carriage return. -/
theorem cut_eq (h : AroundLine cs before line after) (k : Nat) :
    ∃ r, withoutReturn line ++ r = line
      ∧ before ++ (withoutReturn line).take k ++ ((withoutReturn line).drop k ++ r ++ after) = cs := by
  obtain ⟨r, hr⟩ := withoutReturn_isPrefix line
  refine ⟨r, hr, ?_⟩
  calc before ++ (withoutReturn line).take k ++ ((withoutReturn line).drop k ++ r ++ after)
      = before ++ ((withoutReturn line).take k ++ (withoutReturn line).drop k ++ r) ++ after := by
        simp only [List.append_assoc]
    _ = before ++ line ++ after := by rw [List.take_append_drop, hr]
    _ = cs := h.text_eq

theorem exists_splitAt? (h : AroundLine cs before line after) (k : Nat) :
    ∃ rest, splitAt? (byteLength (before ++ (withoutReturn line).take k)) cs
      = some (before ++ (withoutReturn line).take k, rest) := by
  obtain ⟨r, -, htext⟩ := h.cut_eq k
  exact ⟨_, htext ▸ splitAt?_append _ _⟩

/-- **No such cut parts a carriage return from a newline.** -/
theorem not_parts (h : AroundLine cs before line after) {k : Nat} {rest : List Char}
    (hcut : before ++ (withoutReturn line).take k ++ rest = cs) :
    ¬ Parts (before ++ (withoutReturn line).take k) rest := by
  rintro ⟨hreturn, hnewline⟩
  obtain ⟨r, hr, htext⟩ := h.cut_eq k
  obtain rfl := List.append_cancel_left (hcut.trans htext.symm)
  -- the newline does not stand in the line, so the whole line is before the cut
  obtain ⟨hdrop, rfl⟩ : (withoutReturn line).drop k = [] ∧ r = [] := by
    rw [← List.append_eq_nil_iff]
    refine eq_nil_of_head?_append (fun hmem => h.newline_notMem ?_) hnewline
    rw [← hr]
    exact (List.mem_append.mp hmem).elim
      (fun hd => List.mem_append_left _ (List.mem_of_mem_drop hd)) (List.mem_append_right _)
  rw [List.append_nil] at hr
  have hwhole : (withoutReturn line).take k = line := by
    rw [← List.append_nil ((withoutReturn line).take k), ← hdrop, List.take_append_drop, hr]
  rw [hwhole] at hreturn
  rcases withoutReturn_cases line with hplain | hback
  · rcases line.eq_nil_or_concat with rfl | ⟨s, c, rfl⟩
    · -- the line is empty: what stands before it ends in a newline
      rcases eq_nil_or_concat_of_lastLine h.starts with rfl | ⟨s, rfl⟩
      · simp at hreturn
      · simp at hreturn
    · rw [List.getLast?_append] at hreturn
      exact hplain.2 (by simpa using hreturn)
  · rw [hr] at hback
    simp at hback

/-- No carriage return stands right before a line, so one before its end is its own. -/
theorem getLast?_append (h : AroundLine cs before line after) :
    (before ++ line).getLast? = some '\r' ↔ line.getLast? = some '\r' := by
  rcases line.eq_nil_or_concat with rfl | ⟨s, c, rfl⟩
  · rcases eq_nil_or_concat_of_lastLine h.starts with rfl | ⟨s, rfl⟩
    · rfl
    · simp
  · simp

theorem newline_notMem_take (h : AroundLine cs before line after) (k : Nat) :
    '\n' ∉ (withoutReturn line).take k := fun hmem =>
  h.newline_notMem ((withoutReturn_isPrefix line).subset (List.mem_of_mem_take hmem))

/-- The last line before the cut is what the line has before it. -/
theorem lastLine_cut (h : AroundLine cs before line after) (k : Nat) :
    lastLine (before ++ (withoutReturn line).take k) = (withoutReturn line).take k := by
  rw [lastLine_append_of_notMem (h.newline_notMem_take k), h.starts, List.nil_append]

theorem count_cut (h : AroundLine cs before line after) (k : Nat) :
    (before ++ (withoutReturn line).take k).count '\n' = before.count '\n' := by
  rw [List.count_append, List.count_eq_zero_of_not_mem (h.newline_notMem_take k), Nat.add_zero]

end AroundLine

/-! ## The reader's lines -/

/-- White space at the end of a line takes its carriage return along. -/
theorem trimEnd_withoutReturn (line : List Char) : trimEnd (withoutReturn line) = trimEnd line := by
  rcases withoutReturn_cases line with h | h
  · rw [h.1]
  · have hspace : Unicode.isWhiteSpace '\r' = true := by decide +kernel
    calc trimEnd (withoutReturn line) = trimEnd (withoutReturn line ++ ['\r']) := by
          rw [trimEnd, trimEnd, List.reverse_append, List.reverse_singleton, List.singleton_append,
            List.dropWhile_cons_of_pos hspace]
      _ = trimEnd line := by rw [← h]

/-- **A line with another one behind it** is the same for the reader, but for its carriage return,
    and a newline ends it. -/
theorem lines_getElem?_of_next {next : List Char} (h : (lines cs)[i + 1]? = some next) :
    (lines cs)[i]? = (splitLines cs)[i]?.map withoutReturn ∧ i < cs.count '\n' := by
  have hparts := length_splitLines cs
  have hlast : ((splitLines cs).getLast?.filter (! ·.isEmpty)).toList.length ≤ 1 := by
    cases (splitLines cs).getLast?.filter (! ·.isEmpty) with
    | none => exact Nat.zero_le 1
    | some _ => exact Nat.le_refl 1
  have hbound := (List.getElem?_eq_some_iff.mp h).1
  rw [lines, List.length_append, List.length_map, List.length_dropLast] at hbound
  have hi : i < (splitLines cs).length - 1 := by omega
  refine ⟨?_, by omega⟩
  rw [lines, List.getElem?_append_left (by simpa using hi), List.getElem?_map,
    List.getElem?_dropLast, if_pos hi]

end BeanMapper.Text
