import BeanMapper.Proofs.Insertion.Splicing
import BeanMapper.Proofs.Position.RoundTrip
import Mathlib.Data.List.Forall2

/-!
# Indentation — what an insertion does to the lines of a snippet

    The indentation of an insertion is searched for backwards from the offset,
    to where its line starts, and read forwards from there, possibly past the
    offset.  That is the indentation of the one line that the offset is on
    (`indentAt_lineIndent`).

    * `Indents` says what becomes of one line, by its three kinds, and
      `Reindents` what becomes of a snippet; `reindents_fit` is what an
      insertion does.
    * `Reindents.splitLines` cuts the result into lines again: an indentation
      holds no newline, so none comes in and none goes.
    * `reindenting_keeps_lines` is the whole law. -/

namespace BeanMapper

namespace Text

variable {indent line rest before after : List Char} {c : Char}

/-! ## Indentations -/

/-- Of a line, `indent` is the longest run of spaces and tabs at its start. -/
structure IsIndentOf (indent line : List Char) : Prop where
  /-- It is made of spaces and tabs. -/
  blank : ∀ c ∈ indent, c = ' ' ∨ c = '\t'
  /-- The line starts with it and goes on with something else. -/
  longest : ∃ rest, indent ++ rest = line ∧ ∀ c ∈ rest.head?, c ≠ ' ' ∧ c ≠ '\t'

/-- Of the line that a byte offset is on, `indent` is the indentation: of the one with as many
    newlines before it as stand before the offset. -/
def IndentAt (cs : List Char) (offset : Nat) (indent : List Char) : Prop :=
  ∃ before after line, before ++ after = cs ∧ byteLength before = offset
    ∧ (splitLines cs)[before.count '\n']? = some line ∧ IsIndentOf indent line

/-- A line without the spaces and tabs at its start. -/
def withoutIndent (line : List Char) : List Char := line.dropWhile Insertion.isIndentChar

theorem isIndentChar_iff : Insertion.isIndentChar c = true ↔ c = ' ' ∨ c = '\t' := by
  simp [Insertion.isIndentChar]

theorem isIndentChar_eq_false_iff : Insertion.isIndentChar c = false ↔ c ≠ ' ' ∧ c ≠ '\t' := by
  rw [← Bool.not_eq_true, isIndentChar_iff, not_or]

theorem isIndentOf_takeWhile (line : List Char) :
    IsIndentOf (line.takeWhile Insertion.isIndentChar) line where
  blank c hc := isIndentChar_iff.mp (List.mem_takeWhile_imp hc)
  longest := by
    refine ⟨line.dropWhile Insertion.isIndentChar, List.takeWhile_append_dropWhile, fun c hc => ?_⟩
    have hstop := List.head?_dropWhile_not Insertion.isIndentChar line
    rw [Option.mem_def.mp hc] at hstop
    exact isIndentChar_eq_false_iff.mp hstop

/-- Spaces and tabs in front of something that is no white space are the indentation. -/
theorem isIndentOf_append (hindent : ∀ c ∈ indent, c = ' ' ∨ c = '\t')
    (hc : Unicode.isWhiteSpace c = false) : IsIndentOf indent (indent ++ c :: line) where
  blank := hindent
  longest := by
    refine ⟨c :: line, rfl, ?_⟩
    rintro _ ⟨⟩
    constructor
    · rintro rfl
      exact absurd hc (by decide +kernel)
    · rintro rfl
      exact absurd hc (by decide +kernel)

/-- The indentation of a line is read off any text that goes on behind the line with something
    else. -/
theorem IsIndentOf.takeWhile_append (h : IsIndentOf indent line)
    (hstop : ∀ c ∈ rest.head?, c ≠ ' ' ∧ c ≠ '\t') :
    (line ++ rest).takeWhile Insertion.isIndentChar = indent := by
  obtain ⟨behind, rfl, hbehind⟩ := h.longest
  have hblank : ∀ c ∈ indent, Insertion.isIndentChar c = true := fun c hc =>
    isIndentChar_iff.mpr (h.blank c hc)
  have hnone : (behind ++ rest).takeWhile Insertion.isIndentChar = [] := by
    cases hfirst : behind ++ rest with
    | nil => rfl
    | cons c more =>
        refine List.takeWhile_cons_of_neg ?_
        rw [Bool.not_eq_true, isIndentChar_eq_false_iff]
        cases behind with
        | nil => exact hstop c (by rw [List.nil_append] at hfirst; rw [hfirst]; rfl)
        | cons d behind => exact (List.cons.inj hfirst).1 ▸ hbehind d rfl
  rw [List.append_assoc, List.takeWhile_append_of_pos hblank, hnone, List.append_nil]

/-- **What is found around an offset is the indentation of its line**: behind the line stands a
    newline or nothing, so what is read forwards ends with the line at the latest. -/
theorem indentAt_lineIndent (before after : List Char) :
    IndentAt (before ++ after) (byteLength before) (Insertion.lineIndent before after) := by
  obtain ⟨start, more, rest, haround, hline, -, -, hafter⟩ :=
    exists_aroundLine_of_cut (Eq.refl (before ++ after))
  have hindent := isIndentOf_takeWhile (lastLine before ++ more)
  have hstop : ∀ c ∈ rest.head?, c ≠ ' ' ∧ c ≠ '\t' := fun c hc => by
    rw [haround.stops c hc]
    decide
  have hread := hindent.takeWhile_append hstop
  rw [List.append_assoc, hafter] at hread
  refine ⟨before, after, _, rfl, rfl, hline, ?_⟩
  rw [Insertion.lineIndent, hread]
  exact hindent

theorem newline_notMem_of_blank (h : ∀ c ∈ indent, c = ' ' ∨ c = '\t') : '\n' ∉ indent :=
  fun hmem => absurd (h _ hmem) (by decide)

theorem IndentAt.blank {cs : List Char} {offset : Nat} (h : IndentAt cs offset indent) :
    ∀ c ∈ indent, c = ' ' ∨ c = '\t' := by
  obtain ⟨_, _, _, -, -, -, hindent⟩ := h
  exact hindent.blank

theorem withoutIndent_append (h : ∀ c ∈ indent, c = ' ' ∨ c = '\t') :
    withoutIndent (indent ++ line) = withoutIndent line :=
  List.dropWhile_append_of_pos fun c hc => isIndentChar_iff.mpr (h c hc)

end Text

namespace Insertion

open Text

variable {indent unit snippet inserted line line' : List Char}

/-! ## Lines under an indentation -/

/-- What a line of a snippet becomes under an indentation. -/
inductive Indents (indent unit : List Char) : List Char → List Char → Prop where
  /-- A line of white space stays as it is. -/
  | blank {line : List Char} :
      (∀ c ∈ line, Unicode.isWhiteSpace c = true) → Indents indent unit line line
  /-- A line that starts with a dot is indented by one unit more. -/
  | call (rest : List Char) : Indents indent unit ('.' :: rest) (indent ++ unit ++ '.' :: rest)
  /-- Any other line is indented. -/
  | plain {line : List Char} :
      (∃ c ∈ line, Unicode.isWhiteSpace c = false) → line.head? ≠ some '.' →
      Indents indent unit line (indent ++ line)

/-- What a snippet becomes under an indentation: its first line stays as it is. -/
def Reindents (indent unit snippet inserted : List Char) : Prop :=
  ∃ first rest rest', Text.splitLines snippet = first :: rest
    ∧ List.Forall₂ (Indents indent unit) rest rest'
    ∧ inserted = joinWith '\n' (first :: rest')

theorem indents_indentLine (indent unit line : List Char) :
    Indents indent unit line (indentLine indent unit line) := by
  rw [indentLine]
  by_cases hblank : isBlank line = true
  · rw [if_pos hblank]
    exact .blank (List.all_eq_true.mp hblank)
  · rw [if_neg hblank]
    by_cases hdot : line.head? = some '.'
    · rw [if_pos hdot]
      obtain ⟨rest, rfl⟩ := List.head?_eq_some_iff.mp hdot
      exact .call rest
    · rw [if_neg hdot]
      refine .plain ?_ hdot
      rw [isBlank, List.all_eq_true] at hblank
      simpa using hblank

/-- **What an insertion does to a snippet.** -/
theorem reindents_fit (before after snippet : List Char) (unit : String) :
    Reindents (lineIndent before after) unit.toList snippet
      (fit before after snippet (some unit)) := by
  obtain ⟨first, rest, hlines⟩ := List.exists_cons_of_ne_nil (splitOn_ne_nil '\n' snippet)
  refine ⟨first, rest, rest.map (indentLine (lineIndent before after) unit.toList), hlines, ?_, ?_⟩
  · rw [List.forall₂_map_right_iff, List.forall₂_same]
    exact fun line _ => indents_indentLine _ _ line
  · rw [fit, Text.splitLines, hlines]
    rfl

theorem Indents.newline_notMem (h : Indents indent unit line line') (hindent : '\n' ∉ indent)
    (hunit : '\n' ∉ unit) (hline : '\n' ∉ line) : '\n' ∉ line' := by
  cases h with
  | blank _ => exact hline
  | call rest => simpa [hindent, hunit] using hline
  | plain _ _ => simp [hindent, hline]

/-- White space in front is all that a line gets. -/
theorem Indents.withoutIndent_eq (h : Indents indent unit line line')
    (hindent : ∀ c ∈ indent, c = ' ' ∨ c = '\t') (hunit : ∀ c ∈ unit, c = ' ' ∨ c = '\t') :
    withoutIndent line' = withoutIndent line := by
  cases h with
  | blank _ => rfl
  | call rest => rw [List.append_assoc, withoutIndent_append hindent, withoutIndent_append hunit]
  | plain _ _ => exact withoutIndent_append hindent

/-- A line that does not start with white space is indented, by its first character. -/
theorem Indents.eq_of_cons {c : Char} {more : List Char} (h : Indents indent unit (c :: more) line')
    (hc : Unicode.isWhiteSpace c = false) :
    line' = (if c = '.' then indent ++ unit else indent) ++ c :: more := by
  cases h with
  | blank hblank =>
      rw [hblank c List.mem_cons_self] at hc
      exact nomatch hc
  | call _ => rw [if_pos rfl]
  | plain _ hdot => rw [if_neg fun hc => hdot (congrArg some hc)]

/-! ## The lines of the inserted text -/

/-- Each line under an indentation was made from a line. -/
theorem exists_indents_of_mem {rest rest' : List (List Char)}
    (h : List.Forall₂ (Indents indent unit) rest rest') (hline' : line' ∈ rest') :
    ∃ line ∈ rest, Indents indent unit line line' := by
  induction h with
  | nil => exact absurd hline' List.not_mem_nil
  | cons hfirst _ ih =>
      rcases List.mem_cons.mp hline' with rfl | hrest
      · exact ⟨_, List.mem_cons_self, hfirst⟩
      · obtain ⟨line, hline, hindents⟩ := ih hrest
        exact ⟨line, List.mem_cons_of_mem _ hline, hindents⟩

/-- **The inserted text has the lines that it was made from**, each under the indentation. -/
theorem Reindents.splitLines (h : Reindents indent unit snippet inserted) (hindent : '\n' ∉ indent)
    (hunit : '\n' ∉ unit) :
    ∃ first rest rest', Text.splitLines snippet = first :: rest
      ∧ Text.splitLines inserted = first :: rest'
      ∧ List.Forall₂ (Indents indent unit) rest rest' := by
  obtain ⟨first, rest, rest', hsnippet, hlines, rfl⟩ := h
  have hplain : ∀ line ∈ first :: rest, '\n' ∉ line := fun line hline =>
    newline_notMem_of_mem_splitLines (hsnippet ▸ hline)
  obtain ⟨hfirst, hrest⟩ := List.forall_mem_cons.mp hplain
  refine ⟨first, rest, rest', hsnippet, splitLines_joinWith ?_, hlines⟩
  refine List.forall_mem_cons.mpr ⟨hfirst, fun line' hline' => ?_⟩
  obtain ⟨line, hline, hindents⟩ := exists_indents_of_mem hlines hline'
  exact hindents.newline_notMem hindent hunit (hrest line hline)

/-- **A snippet can be inserted** exactly where the document can be cut. -/
theorem exists_insert_iff {document snippet : String} {offset : Nat} {unit : Option String} :
    (∃ i, insert document offset snippet unit = .ok i) ↔ IsBoundary document.toList offset := by
  constructor
  · rintro ⟨i, h⟩
    obtain ⟨before, after, hcut, -⟩ := insert_eq_ok_iff.mp h
    exact ⟨before, after, splitAt?_eq_some_iff.mp hcut⟩
  · rintro ⟨before, after, hcut⟩
    exact ⟨_, insert_eq_ok_iff.mpr ⟨before, after, splitAt?_eq_some_iff.mpr hcut, rfl⟩⟩

/-- **What was inserted is the snippet under the indentation of the line at the offset.** -/
theorem reindents_of_insert {document snippet unit : String} {offset : Nat} {i : Insertion}
    (h : insert document offset snippet (some unit) = .ok i) :
    ∃ indent, IndentAt document.toList offset indent
      ∧ Reindents indent unit.toList snippet.toList (slice i.text.toList i.start i.stop) := by
  obtain ⟨before, after, hcut, hslice⟩ := slice_of_insert h
  obtain ⟨htext, rfl⟩ := splitAt?_eq_some_iff.mp hcut
  rw [hslice, ← htext]
  exact ⟨_, indentAt_lineIndent before after, reindents_fit before after snippet.toList unit⟩

/-- **Indenting a snippet changes white space at the beginning of its lines only.**  Wherever a
    snippet can be inserted, the first line stays as it is, and of the others those of white space
    do; any other line gets the indentation of the line at the offset, and one unit more exactly if
    it starts with a dot.  No newline comes in and none goes, and without the spaces and tabs at
    their beginning all lines are what they were. -/
theorem reindenting_keeps_lines (document snippet unit : String) (offset : Nat)
    (hoffset : IsBoundary document.toList offset) (hunit : ∀ c ∈ unit.toList, c = ' ' ∨ c = '\t') :
    ∃ i indent first rest rest', insert document offset snippet (some unit) = .ok i
      ∧ IndentAt document.toList offset indent
      ∧ Text.splitLines snippet.toList = first :: rest
      ∧ Text.splitLines (slice i.text.toList i.start i.stop) = first :: rest'
      ∧ List.Forall₂ (Indents indent unit.toList) rest rest'
      ∧ (slice i.text.toList i.start i.stop).count '\n' = snippet.toList.count '\n'
      ∧ (Text.splitLines (slice i.text.toList i.start i.stop)).map withoutIndent
          = (Text.splitLines snippet.toList).map withoutIndent := by
  obtain ⟨i, hi⟩ := exists_insert_iff.mpr hoffset
  obtain ⟨indent, hat, hreindents⟩ := reindents_of_insert hi
  have hindent := hat.blank
  obtain ⟨first, rest, rest', hsnippet, hinserted, hlines⟩ :=
    hreindents.splitLines (newline_notMem_of_blank hindent) (newline_notMem_of_blank hunit)
  refine ⟨i, indent, first, rest, rest', hi, hat, hsnippet, hinserted, hlines, ?count, ?strip⟩
  case count =>
    have hbefore := length_splitLines snippet.toList
    have hafter := length_splitLines (slice i.text.toList i.start i.stop)
    rw [hsnippet, List.length_cons, hlines.length_eq] at hbefore
    rw [hinserted, List.length_cons] at hafter
    omega
  case strip =>
    have hsame : List.Forall₂ (· = ·) (rest'.map withoutIndent) (rest.map withoutIndent) := by
      rw [List.forall₂_map_left_iff, List.forall₂_map_right_iff]
      exact hlines.flip.imp fun _ _ h => h.withoutIndent_eq hindent hunit
    rw [List.forall₂_eq_eq_eq] at hsame
    rw [hsnippet, hinserted, List.map_cons, List.map_cons, hsame]

/-- A snippet with a line of each kind, two of them blank and one with a carriage return. -/
def mixedSnippet : String := "new B()\n.a()\n \n\n\tx;\r\n. "

/-- In the middle of the indentation of a line, a tab and a space, the snippet gets all of it, and
    the lines with a dot two spaces more. -/
theorem lines_of_mixed_snippet :
    IsBoundary "é\n\t y\r\n".toList 4
    ∧ (∀ c ∈ "  ".toList, c = ' ' ∨ c = '\t')
    ∧ ∃ i, insert "é\n\t y\r\n" 4 mixedSnippet (some "  ") = .ok i
        ∧ i.text = "é\n\tnew B()\n\t   .a()\n \n\n\t \tx;\r\n\t   .  y\r\n"
        ∧ (Text.splitLines (slice i.text.toList i.start i.stop)).map withoutIndent
            = (Text.splitLines mixedSnippet.toList).map withoutIndent := by
  have hoffset : IsBoundary "é\n\t y\r\n".toList 4 :=
    ⟨"é\n\t".toList, " y\r\n".toList, by decide, by decide⟩
  have hunit : ∀ c ∈ "  ".toList, c = ' ' ∨ c = '\t' := by simp
  have hinsert : insert "é\n\t y\r\n" 4 mixedSnippet (some "  ")
      = .ok ⟨"é\n\tnew B()\n\t   .a()\n \n\n\t \tx;\r\n\t   .  y\r\n", 4, 37⟩ := by rfl
  obtain ⟨i, _, _, _, _, hi, -, -, -, -, -, hstrip⟩ :=
    reindenting_keeps_lines _ mixedSnippet "  " 4 hoffset hunit
  obtain rfl := Except.ok.inj (hi.symm.trans hinsert)
  exact ⟨hoffset, hunit, _, hi, rfl, hstrip⟩

end Insertion

end BeanMapper
