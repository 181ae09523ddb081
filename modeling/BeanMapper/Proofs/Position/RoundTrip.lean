import BeanMapper.Proofs.Position.Offsets

/-!
# Round trip — positions and byte offsets turn into each other

    A position of the text has an offset, and the position of that offset is
    the same one with its character clamped to the line
    (`exists_fromOffset?_of_toOffset?`).  Every place where the text can be
    cut has a position, and that position has the same offset again unless
    the cut is right behind the carriage return of a line: such a place lies
    behind the characters that count, and the offset is the one before
    (`toOffset?_of_fromOffset?`).  The heart of the argument is
    `Text.AroundLine.exists_cut`: a cut behind as many newlines as stand
    before a line is a cut on that line. -/

namespace BeanMapper

namespace Text

variable {cs before after : List Char} {offset : Nat}

/-- A text can be cut at a byte offset: it is neither past the end nor inside a character. -/
def IsBoundary (cs : List Char) (offset : Nat) : Prop :=
  ∃ before after, before ++ after = cs ∧ byteLength before = offset

/-- Right before a byte offset stands the carriage return that ends a line, at the end of the text
    or in front of a newline. -/
def BehindReturn (cs : List Char) (offset : Nat) : Prop :=
  ∃ before after, before ++ '\r' :: after = cs ∧ byteLength (before ++ ['\r']) = offset
    ∧ ∀ c ∈ after.head?, c = '\n'

/-- A text is cut in two parts of which the first has the given length. -/
theorem splitAt?_eq_some_iff :
    splitAt? offset cs = some (before, after)
      ↔ before ++ after = cs ∧ byteLength before = offset := by
  constructor
  · intro h
    exact ⟨append_of_splitAt? h, byteLength_of_splitAt? h⟩
  · rintro ⟨rfl, rfl⟩
    exact splitAt?_append before after

theorem splitAt?_eq_none_iff : splitAt? offset cs = none ↔ ¬ IsBoundary cs offset := by
  rw [← not_iff_not, not_not, ← ne_eq, Option.ne_none_iff_exists']
  constructor
  · rintro ⟨⟨before, after⟩, h⟩
    exact ⟨before, after, splitAt?_eq_some_iff.mp h⟩
  · rintro ⟨before, after, h⟩
    exact ⟨(before, after), splitAt?_eq_some_iff.mpr h⟩

theorem IsBoundary.le_byteLength (h : IsBoundary cs offset) : offset ≤ byteLength cs := by
  obtain ⟨before, after, rfl, rfl⟩ := h
  rw [byteLength_append]
  exact Nat.le_add_right _ _

/-- A text is cut in one way only behind a carriage return that ends a line. -/
theorem behindReturn_iff (hcut : before ++ after = cs) :
    BehindReturn cs (byteLength before)
      ↔ before.getLast? = some '\r' ∧ ∀ c ∈ after.head?, c = '\n' := by
  constructor
  · rintro ⟨start, rest, htext, hbytes, hends⟩
    have hsame : splitAt? (byteLength before) cs = some (start ++ ['\r'], rest) :=
      splitAt?_eq_some_iff.mpr ⟨by rw [← htext]; simp, hbytes⟩
    obtain ⟨rfl, rfl⟩ := Prod.mk.inj
      (Option.some.inj ((splitAt?_eq_some_iff.mpr ⟨hcut, rfl⟩).symm.trans hsame))
    exact ⟨List.getLast?_concat, hends⟩
  · rintro ⟨hreturn, hends⟩
    obtain ⟨start, rfl⟩ := List.getLast?_eq_some_iff.mp hreturn
    exact ⟨start, after, by rw [← hcut]; simp, rfl, hends⟩

theorem byteLength_of_return {line : List Char} (h : line = withoutReturn line ++ ['\r']) :
    byteLength line = byteLength (withoutReturn line) + 1 :=
  calc byteLength line = byteLength (withoutReturn line ++ ['\r']) := by rw [← h]
    _ = byteLength (withoutReturn line) + 1 := byteLength_append _ _

end Text

namespace Position

open Text

variable {source : String} {p q : Position} {offset : Nat}

/-! ## From a position to its offset and back -/

/-- A position where a text is cut: its line and its character are those of the cut. -/
theorem fromOffset?_of_standsAt {line character : Nat}
    (h : StandsAt source.toList offset line character) :
    fromOffset? source offset = some ⟨UInt32.ofNat line, UInt32.ofNat character⟩ := by
  obtain ⟨before, after, hcut, rfl, rfl⟩ := h
  rw [fromOffset?, hcut]
  rfl

/-- **The offset of a position leads back to it**, with its character clamped to the line. -/
theorem exists_fromOffset?_of_toOffset? (h : p.toOffset? source = some offset) :
    ∃ q, fromOffset? source offset = some q ∧ q.line = p.line
      ∧ q.character.toNat = min p.character.toNat (lineWidth source.toList p.line.toNat) := by
  refine ⟨_, fromOffset?_of_standsAt (standsAt_of_toOffset? h), UInt32.ofNat_toNat, ?_⟩
  refine UInt32.toNat_ofNat_of_lt' ?_
  exact (Nat.min_le_left _ _).trans_lt p.character.toNat_lt

/-- A position leads to a boundary of characters. -/
theorem isBoundary_of_toOffset? (h : p.toOffset? source = some offset) :
    IsBoundary source.toList offset := by
  obtain ⟨before, after, hcut, -⟩ := standsAt_of_toOffset? h
  exact ⟨before, after, splitAt?_eq_some_iff.mp hcut⟩

/-! ## From an offset to its position and back -/

theorem fromOffset?_eq_none_iff :
    fromOffset? source offset = none ↔ ¬ IsBoundary source.toList offset := by
  rw [fromOffset?, Option.map_eq_none_iff, splitAt?_eq_none_iff]

/-- The position of a cut counts the newlines before it and the characters of the last line, if the
    bytes before it can be counted. -/
theorem toNat_atEndOf {before : List Char} (hsize : byteLength before < 2 ^ 32) :
    (atEndOf before).line.toNat = before.count '\n'
      ∧ (atEndOf before).character.toNat = (lastLine before).length := by
  have hlength := length_le_byteLength before
  have hlast := (lastLine_isSuffix before).length_le
  have hcount := List.count_le_length (a := '\n') (l := before)
  constructor
  · exact UInt32.toNat_ofNat_of_lt' (by rw [UInt32.size]; omega)
  · exact UInt32.toNat_ofNat_of_lt' (by rw [UInt32.size]; omega)

/-- The position of a cut has the offset of as many characters as stand on its line before it. -/
theorem toOffset?_atEndOf {before start line : List Char}
    (hsize : byteLength before < 2 ^ 32)
    (hline : (splitLines source.toList)[before.count '\n']? = some line)
    (hstart : byteLength start = lineStart (splitLines source.toList) (before.count '\n')) :
    (atEndOf before).toOffset? source = some (byteLength start
      + byteLength ((withoutReturn line).take (lastLine before).length)) := by
  obtain ⟨hrow, hcolumn⟩ := toNat_atEndOf hsize
  rw [toOffset?, hrow, hcolumn, hline, hstart, Option.map_some]

/-- **The position of an offset leads back to it**, or to the offset before it if the offset is
    right behind the carriage return of a line. -/
theorem toOffset?_of_fromOffset? (hsize : byteLength source.toList < 2 ^ 32)
    (h : fromOffset? source offset = some p) :
    (BehindReturn source.toList offset → p.toOffset? source = some (offset - 1))
      ∧ (¬ BehindReturn source.toList offset → p.toOffset? source = some offset) := by
  obtain ⟨⟨before, after⟩, hcut, rfl⟩ := Option.map_eq_some_iff.mp h
  obtain ⟨htext, rfl⟩ := splitAt?_eq_some_iff.mp hcut
  have hbytes : byteLength before < 2 ^ 32 :=
    (IsBoundary.le_byteLength ⟨before, after, htext, rfl⟩).trans_lt hsize
  obtain ⟨start, more, rest, haround, hline, hstart, hbefore, hafter⟩ :=
    exists_aroundLine_of_cut htext
  have hsum : byteLength before = byteLength start + byteLength (lastLine before) := by
    rw [← byteLength_append, hbefore]
  rw [toOffset?_atEndOf hbytes hline hstart, behindReturn_iff htext]
  cases more with
  | cons c more =>
      -- the line goes on behind the cut, so all that stands before the cut counts
      have hinside : ¬ ∀ d ∈ after.head?, d = '\n' := fun hends => by
        obtain rfl : c = '\n' := hends c (by rw [← hafter]; rfl)
        exact haround.newline_notMem (by simp)
      refine ⟨fun hreturn => absurd hreturn.2 hinside, fun _ => ?_⟩
      rw [take_withoutReturn (by simp), List.take_left, hsum]
  | nil =>
      -- the line ends at the cut, so its carriage return decides
      rw [List.append_nil] at haround ⊢
      have hends : ∀ c ∈ after.head?, c = '\n' := by
        rw [← hafter]
        exact haround.stops
      have hlast : before.getLast? = some '\r' ↔ (lastLine before).getLast? = some '\r' := by
        rw [← haround.getLast?_append, hbefore]
      rw [hlast, List.take_of_length_le (withoutReturn_isPrefix _).length_le]
      rcases withoutReturn_cases (lastLine before) with ⟨hplain, hnone⟩ | hreturn
      · rw [hplain, ← hsum]
        exact ⟨fun h => absurd h.1 hnone, fun _ => rfl⟩
      · refine ⟨fun _ => ?_, fun hnot => absurd ⟨by rw [hreturn]; simp, hends⟩ hnot⟩
        rw [hsum, byteLength_of_return hreturn, ← Nat.add_assoc, Nat.add_sub_cancel]

/-! ## The end of a line -/

/-- There is an end of a line exactly if a position on it has an offset. -/
theorem isSome_endOfLine? (line character : UInt32) :
    (endOfLine? source line).isSome
      ↔ ((⟨line, character⟩ : Position).toOffset? source).isSome := by
  rw [endOfLine?, toOffset?, Option.isSome_map, Option.isSome_map]

/-- **The end of a line** has the offset of every position past the characters of the line. -/
theorem toOffset?_of_endOfLine? {line character : UInt32}
    (hsize : byteLength source.toList < 2 ^ 32) (h : endOfLine? source line = some p)
    (hpast : lineWidth source.toList line.toNat ≤ character.toNat) :
    p.toOffset? source = (⟨line, character⟩ : Position).toOffset? source := by
  obtain ⟨text, htext, rfl⟩ := Option.map_eq_some_iff.mp h
  have hle := lineWidth_le source.toList line.toNat
  rw [lineWidth, htext, Option.getD_some] at hpast hle
  have hwidth : (UInt32.ofNat (withoutReturn text).length).toNat = (withoutReturn text).length :=
    UInt32.toNat_ofNat_of_lt' (by rw [UInt32.size]; omega)
  rw [toOffset?, toOffset?, htext, Option.map_some, Option.map_some]
  dsimp only
  rw [hwidth, List.take_length, List.take_of_length_le hpast]

/-! ## Positions and offsets -/

/-- **Positions and byte offsets are inverse to each other up to line ends**, in a text whose bytes
    can be counted.  A position has no offset exactly if its line is past the end of the text; its
    offset is a place where the text can be cut, with the same position but for a character past
    the line, which is clamped.  An offset has no position exactly if it is past the end or inside a
    character, and its position has the same offset again, but right behind the carriage return of
    a line the one before.  And the end of a line, which there is for every line of the text, has
    the offset of every position past the characters of that line. -/
theorem positions_invert_offsets (source : String) (hsize : byteLength source.toList < 2 ^ 32) :
    (∀ p : Position,
      (p.toOffset? source = none ↔ source.toList.count '\n' < p.line.toNat)
        ∧ ∀ offset, p.toOffset? source = some offset →
          offset ≤ byteLength source.toList ∧ IsBoundary source.toList offset
            ∧ ∃ q, fromOffset? source offset = some q ∧ q.line = p.line
              ∧ q.character.toNat
                = min p.character.toNat (lineWidth source.toList p.line.toNat))
    ∧ (∀ offset,
      (fromOffset? source offset = none
          ↔ byteLength source.toList < offset ∨ ¬ IsBoundary source.toList offset)
        ∧ ∀ p, fromOffset? source offset = some p →
          (BehindReturn source.toList offset → p.toOffset? source = some (offset - 1))
            ∧ (¬ BehindReturn source.toList offset → p.toOffset? source = some offset))
    ∧ ∀ line,
      (∀ character, (endOfLine? source line).isSome
          ↔ ((⟨line, character⟩ : Position).toOffset? source).isSome)
        ∧ ∀ p, endOfLine? source line = some p →
          ∀ character : UInt32, lineWidth source.toList line.toNat ≤ character.toNat →
            p.toOffset? source = (⟨line, character⟩ : Position).toOffset? source := by
  refine ⟨?positions, ?offsets, ?lineEnds⟩
  case positions =>
    intro p
    refine ⟨toOffset?_eq_none_iff, ?_⟩
    intro offset h
    have hboundary := isBoundary_of_toOffset? h
    exact ⟨hboundary.le_byteLength, hboundary, exists_fromOffset?_of_toOffset? h⟩
  case offsets =>
    intro offset
    refine ⟨?_, fun p h => toOffset?_of_fromOffset? hsize h⟩
    rw [fromOffset?_eq_none_iff]
    constructor
    · exact .inr
    · rintro (hpast | hinside) hboundary
      · exact absurd hboundary.le_byteLength (Nat.not_le.mpr hpast)
      · exact hinside hboundary
  case lineEnds =>
    intro line
    refine ⟨isSome_endOfLine? line, ?_⟩
    intro p h character hpast
    exact toOffset?_of_endOfLine? hsize h hpast

/-- A line of one wide character that ends in two carriage returns, and one behind it. -/
def twoReturns : String := "é\r\r\nb"

/-- Only the second carriage return ends the line: the offset behind it leads back to the one
    before, and that one, behind the first carriage return, to itself. -/
theorem positions_of_two_returns :
    byteLength twoReturns.toList < 2 ^ 32
      ∧ fromOffset? twoReturns 4 = some ⟨0, 3⟩ ∧ BehindReturn twoReturns.toList 4
      ∧ (⟨0, 3⟩ : Position).toOffset? twoReturns = some 3
      ∧ (∃ q, fromOffset? twoReturns 3 = some q ∧ q.line = 0 ∧ q.character.toNat = 2)
      ∧ endOfLine? twoReturns 0 = some ⟨0, 2⟩
      ∧ (⟨0, 2⟩ : Position).toOffset? twoReturns = (⟨0, 9⟩ : Position).toOffset? twoReturns := by
  have hsize : byteLength twoReturns.toList < 2 ^ 32 := by decide +kernel
  have hfrom : fromOffset? twoReturns 4 = some ⟨0, 3⟩ := by decide +kernel
  have hbehind : BehindReturn twoReturns.toList 4 :=
    ⟨['é', '\r'], ['\n', 'b'], by decide +kernel, by decide +kernel, by simp⟩
  have hend : endOfLine? twoReturns 0 = some ⟨0, 2⟩ := by decide +kernel
  obtain ⟨hpositions, hoffsets, hlines⟩ := positions_invert_offsets twoReturns hsize
  have hto := ((hoffsets 4).2 _ hfrom).1 hbehind
  exact ⟨hsize, hfrom, hbehind, hto, ((hpositions _).2 _ hto).2.2, hend,
    (hlines 0).2 _ hend 9 (by decide +kernel)⟩

end Position

end BeanMapper
