import BeanMapper.Location
import BeanMapper.Proofs.Position.Offsets

/-!
# Resolution of locations — the place that is asked for and the one that is found

    A location asks for a character of a line, or for the end of a line or of
    the blank one behind it.  Its indices are as large as an argument can spell
    them, but a position has words of 32 bits only, so what is looked up is the
    remainder of each index.

    * `resolve_column`, `resolve_opening` and `resolve_line` say for the three
      kinds of locations where the offset stands that is found.
    * `resolve_honours_iff` says when that is the place that was asked for:
      exactly if the remainders ask for it too.
    * `resolve_of_wrapped_line` shows a line past the end for which the first
      line is found. -/

namespace BeanMapper.Location

open Text

variable {location : Location} {source : String} {line c offset : Nat}

/-! ## What is asked for -/

/-- A line ends in an opening brace, white space aside, and the reader's next line is blank. -/
def OpensBlank (cs : List Char) (line : Nat) : Prop :=
  ∃ opening next, (splitLines cs)[line]? = some opening
    ∧ (trimEnd opening).getLast? = some '{'
    ∧ (lines cs)[line + 1]? = some next ∧ isBlank next = true

/-- A location is honoured in a text: there is no offset exactly if its line is past the end, and the
    offset is that of the character, or of the last one of the line, or of the end of the line that
    the snippet belongs on. -/
structure Honours (location : Location) (source : String) : Prop where
  /-- Only lines past the end have no offset. -/
  fails_iff : (∃ fault, location.resolve source = .error fault)
    ↔ source.toList.count '\n' < location.line
  /-- A column is counted on the line, and the end of the line stands for what is past it. -/
  column : ∀ c offset, location.column = some c → location.resolve source = .ok offset →
    StandsAt source.toList offset location.line (min c (lineWidth source.toList location.line))
  /-- Behind a line that opens a block, the end of the blank line. -/
  opening : location.column = none → OpensBlank source.toList location.line →
    ∀ offset, location.resolve source = .ok offset →
      StandsAt source.toList offset (location.line + 1)
        (lineWidth source.toList (location.line + 1))
  /-- Otherwise the end of the line. -/
  line : location.column = none → ¬ OpensBlank source.toList location.line →
    ∀ offset, location.resolve source = .ok offset →
      StandsAt source.toList offset location.line (lineWidth source.toList location.line)

/-- Counted in words of 32 bits, a location asks for the same place of a text. -/
structure SurvivesCounting (location : Location) (source : String) : Prop where
  /-- The line is in the text, or its remainder is past the end as well. -/
  line : location.line ≤ source.toList.count '\n'
    ∨ source.toList.count '\n' < location.line % 2 ^ 32
  /-- On a line of the text, the column is its own remainder, or that is past the end as well. -/
  column : location.line ≤ source.toList.count '\n' → ∀ c, location.column = some c →
    c < 2 ^ 32 ∨ lineWidth source.toList location.line ≤ c % 2 ^ 32

/-! ## What is found -/

theorem count_lt (hsize : byteLength source.toList < 2 ^ 32) :
    source.toList.count '\n' < 2 ^ 32 :=
  (List.count_le_length.trans (length_le_byteLength _)).trans_lt hsize

theorem resolve_eq_ok_iff :
    location.resolve source = .ok offset
      ↔ (location.position? source).bind (·.toOffset? source) = some offset := by
  rw [resolve]
  cases (location.position? source).bind (·.toOffset? source) <;> simp

theorem resolve_fails_iff :
    (∃ fault, location.resolve source = .error fault)
      ↔ (location.position? source).bind (·.toOffset? source) = none := by
  rw [resolve]
  cases (location.position? source).bind (·.toOffset? source) <;> simp

/-- The reader's lines tell whether a line opens a block before a blank line. -/
theorem opensBlankBlock_iff : opensBlankBlock source line = true ↔ OpensBlank source.toList line := by
  rw [opensBlankBlock]
  cases hnext : (lines source.toList)[line + 1]? with
  | none =>
      constructor
      · intro h
        split at h
        · rename_i opening next rest hdrop
          have hsecond := congrArg (·[1]?) hdrop
          rw [List.getElem?_drop, hnext] at hsecond
          exact nomatch hsecond
        · exact nomatch h
      · rintro ⟨_, _, -, -, hsome, -⟩
        rw [hnext] at hsome
        exact nomatch hsome
  | some next =>
      obtain ⟨hopening, hcount⟩ := lines_getElem?_of_next hnext
      obtain ⟨opening, hpart⟩ : ∃ opening, (splitLines source.toList)[line]? = some opening :=
        Option.ne_none_iff_exists'.mp fun hnone => by
          have := splitLines_getElem?_eq_none_iff.mp hnone
          omega
      rw [hpart, Option.map_some] at hopening
      obtain ⟨rest, hdrop⟩ : ∃ rest,
          (lines source.toList).drop line = withoutReturn opening :: next :: rest := by
        obtain ⟨hlt, hget⟩ := List.getElem?_eq_some_iff.mp hnext
        obtain ⟨hlt', hget'⟩ := List.getElem?_eq_some_iff.mp hopening
        refine ⟨(lines source.toList).drop (line + 2), ?_⟩
        rw [List.drop_eq_getElem_cons hlt', List.drop_eq_getElem_cons hlt, hget, hget']
      rw [hdrop]
      simp only [trimEnd_withoutReturn, Bool.and_eq_true, beq_iff_eq]
      constructor
      · rintro ⟨hbrace, hblank⟩
        exact ⟨opening, next, hpart, hbrace, hnext, hblank⟩
      · rintro ⟨opening', next', hpart', hbrace, hnext', hblank⟩
        rw [hpart] at hpart'
        rw [hnext] at hnext'
        cases hpart'
        cases hnext'
        exact ⟨hbrace, hblank⟩

theorem OpensBlank.lt_count {cs : List Char} (h : OpensBlank cs line) : line < cs.count '\n' := by
  obtain ⟨_, _, -, -, hnext, -⟩ := h
  exact (lines_getElem?_of_next hnext).2

/-- **With a column**, the offset stands on the line that is counted, behind the characters that are
    counted. -/
theorem resolve_column (source : String) (hcolumn : location.column = some c) :
    ((∃ fault, location.resolve source = .error fault)
      ↔ source.toList.count '\n' < location.line % 2 ^ 32)
    ∧ ∀ offset, location.resolve source = .ok offset →
      StandsAt source.toList offset (location.line % 2 ^ 32)
        (min (c % 2 ^ 32) (lineWidth source.toList (location.line % 2 ^ 32))) := by
  have hposition : location.position? source
      = some ⟨UInt32.ofNat location.line, UInt32.ofNat c⟩ := by
    rw [position?, hcolumn]
  refine ⟨?_, fun offset hok => ?_⟩
  · rw [resolve_fails_iff, hposition, Option.bind_some, Position.toOffset?_eq_none_iff,
      UInt32.toNat_ofNat']
  · rw [resolve_eq_ok_iff, hposition, Option.bind_some] at hok
    simpa only [UInt32.toNat_ofNat'] using Position.standsAt_of_toOffset? hok

/-- **Behind a line that opens a block**, the offset stands at the end of the blank line. -/
theorem resolve_opening (hsize : byteLength source.toList < 2 ^ 32) (hcolumn : location.column = none)
    (hopens : OpensBlank source.toList location.line) :
    (∃ offset, location.resolve source = .ok offset)
    ∧ ∀ offset, location.resolve source = .ok offset →
      StandsAt source.toList offset (location.line + 1)
        (lineWidth source.toList (location.line + 1)) := by
  have hposition : location.position? source
      = Position.endOfLine? source (UInt32.ofNat location.line + 1) := by
    simp only [position?, hcolumn, opensBlankBlock_iff.mpr hopens, if_true]
  -- the text holds a newline for each of its lines, so the next line can be counted
  have hlt := hopens.lt_count
  have hcount := count_lt hsize
  have hline : (UInt32.ofNat location.line + 1).toNat = location.line + 1 := by
    rw [UInt32.toNat_add, UInt32.toNat_ofNat', UInt32.toNat_one]
    omega
  constructor
  · refine Option.ne_none_iff_exists'.mp (fun hnone => ?_) |>.imp fun offset h =>
      resolve_eq_ok_iff.mpr h
    rw [hposition, Position.endOfLine?_bind_eq_none_iff, hline] at hnone
    omega
  · intro offset hok
    rw [resolve_eq_ok_iff, hposition] at hok
    simpa only [hline] using Position.standsAt_of_endOfLine? hsize hok

/-- **Without a column**, the offset otherwise stands at the end of the line that is counted. -/
theorem resolve_line (hsize : byteLength source.toList < 2 ^ 32) (hcolumn : location.column = none)
    (hplain : ¬ OpensBlank source.toList location.line) :
    ((∃ fault, location.resolve source = .error fault)
      ↔ source.toList.count '\n' < location.line % 2 ^ 32)
    ∧ ∀ offset, location.resolve source = .ok offset →
      StandsAt source.toList offset (location.line % 2 ^ 32)
        (lineWidth source.toList (location.line % 2 ^ 32)) := by
  have hposition : location.position? source
      = Position.endOfLine? source (UInt32.ofNat location.line) := by
    simp only [position?, hcolumn, mt opensBlankBlock_iff.mp hplain,
      Bool.false_eq_true, if_false]
  refine ⟨?_, fun offset hok => ?_⟩
  · rw [resolve_fails_iff, hposition, Position.endOfLine?_bind_eq_none_iff, UInt32.toNat_ofNat']
  · rw [resolve_eq_ok_iff, hposition] at hok
    simpa only [UInt32.toNat_ofNat'] using Position.standsAt_of_endOfLine? hsize hok

/-! ## When the one is the other -/

theorem standsAt_unique {cs : List Char} {l m k n : Nat} (h : StandsAt cs offset l k)
    (h' : StandsAt cs offset m n) : k = n := by
  obtain ⟨before, after, hcut, -, rfl⟩ := h
  obtain ⟨before', after', hcut', -, rfl⟩ := h'
  rw [hcut] at hcut'
  cases hcut'
  rfl

theorem not_fails_of_ok (h : location.resolve source = .ok offset) :
    ¬ ∃ fault, location.resolve source = .error fault := by
  rintro ⟨fault, hfault⟩
  rw [h] at hfault
  exact nomatch hfault

namespace SurvivesCounting

/-- The remainder of a line is past the end exactly if the line is. -/
theorem past_iff (h : SurvivesCounting location source) :
    source.toList.count '\n' < location.line % 2 ^ 32
      ↔ source.toList.count '\n' < location.line := by
  have := h.line
  have := Nat.mod_le location.line (2 ^ 32)
  omega

/-- A line whose remainder is in the text is its own remainder. -/
theorem mod_eq (h : SurvivesCounting location source) (hsize : byteLength source.toList < 2 ^ 32)
    (hin : ¬ source.toList.count '\n' < location.line % 2 ^ 32) :
    location.line % 2 ^ 32 = location.line ∧ location.line ≤ source.toList.count '\n' := by
  have hle := Nat.le_of_not_lt (mt h.past_iff.mpr hin)
  exact ⟨Nat.mod_eq_of_lt (hle.trans_lt (count_lt hsize)), hle⟩

/-- What survives counting is honoured. -/
theorem honours (h : SurvivesCounting location source)
    (hsize : byteLength source.toList < 2 ^ 32) : Honours location source where
  fails_iff := by
    cases hcolumn : location.column with
    | some c => exact (resolve_column _ hcolumn).1.trans h.past_iff
    | none =>
        by_cases hopens : OpensBlank source.toList location.line
        · obtain ⟨offset, hok⟩ := (resolve_opening hsize hcolumn hopens).1
          exact iff_of_false (not_fails_of_ok hok) (Nat.lt_asymm hopens.lt_count)
        · exact (resolve_line hsize hcolumn hopens).1.trans h.past_iff
  column := by
    intro c offset hcolumn hok
    obtain ⟨hfails, hstands⟩ := resolve_column source hcolumn
    obtain ⟨hmod, hle⟩ := h.mod_eq hsize (mt hfails.mpr (not_fails_of_ok hok))
    have hcharacter : min (c % 2 ^ 32) (lineWidth source.toList location.line)
        = min c (lineWidth source.toList location.line) := by
      have := h.column hle c hcolumn
      have := Nat.mod_le c (2 ^ 32)
      omega
    have := hstands offset hok
    rwa [hmod, hcharacter] at this
  opening := fun hcolumn hopens => (resolve_opening hsize hcolumn hopens).2
  line := by
    intro hcolumn hplain offset hok
    obtain ⟨hfails, hstands⟩ := resolve_line hsize hcolumn hplain
    obtain ⟨hmod, -⟩ := h.mod_eq hsize (mt hfails.mpr (not_fails_of_ok hok))
    have := hstands offset hok
    rwa [hmod] at this

end SurvivesCounting

namespace Honours

/-- What is honoured survives counting. -/
theorem survivesCounting (h : Honours location source)
    (hsize : byteLength source.toList < 2 ^ 32) : SurvivesCounting location source where
  line := by
    by_contra hno
    have hpast : source.toList.count '\n' < location.line := by omega
    have hfails := h.fails_iff.mpr hpast
    refine hno (.inr ?_)
    cases hcolumn : location.column with
    | some c => exact (resolve_column _ hcolumn).1.mp hfails
    | none =>
        exact (resolve_line hsize hcolumn fun hopens => Nat.lt_asymm hpast hopens.lt_count).1.mp
          hfails
  column := by
    intro hle c hcolumn
    obtain ⟨hfails, hstands⟩ := resolve_column source hcolumn
    have hmod : location.line % 2 ^ 32 = location.line :=
      Nat.mod_eq_of_lt (hle.trans_lt (count_lt hsize))
    cases hok : location.resolve source with
    | error fault =>
        have := hfails.mp ⟨fault, hok⟩
        omega
    | ok offset =>
        -- the offset stands where the column asks for, and where its remainder does
        have hasked := h.column c offset hcolumn hok
        have hfound := hstands offset hok
        rw [hmod] at hfound
        have := standsAt_unique hasked hfound
        have := Nat.mod_lt c (Nat.two_pow_pos 32)
        omega

end Honours

/-- **When a location is honoured.**  In a text whose bytes can be counted, the place that a location
    asks for is found exactly if counting its indices in words of 32 bits does not change what they
    ask for. -/
theorem resolve_honours_iff (location : Location) (source : String)
    (hsize : byteLength source.toList < 2 ^ 32) :
    Honours location source ↔ SurvivesCounting location source :=
  ⟨fun h => h.survivesCounting hsize, fun h => h.honours hsize⟩

/-- The line of a method is honoured: the offset stands at the end of the blank line behind it, before
    a carriage return. -/
theorem resolve_of_opening_line :
    byteLength "A é()\x7b\r\n  \r\n\x7d".toList < 2 ^ 32
    ∧ Honours ⟨"A.java", 0, none⟩ "A é()\x7b\r\n  \r\n\x7d"
    ∧ Location.resolve ⟨"A.java", 0, none⟩ "A é()\x7b\r\n  \r\n\x7d" = .ok 11 := by
  have hsize : byteLength "A é()\x7b\r\n  \r\n\x7d".toList < 2 ^ 32 := by decide +kernel
  refine ⟨hsize, (resolve_honours_iff _ _ hsize).mpr ⟨.inl (Nat.zero_le _), ?_⟩, by decide +kernel⟩
  exact fun _ c hc => nomatch hc

/-- The line with index `2^32` is far past the end of a text with one newline, and the end of the first
    line is found for it. -/
theorem resolve_of_wrapped_line :
    parse "F.java:4294967297" = .ok ⟨"F.java", 4294967296, none⟩
    ∧ byteLength "class A \x7b\x7d\n".toList < 2 ^ 32
    ∧ "class A \x7b\x7d\n".toList.count '\n' < 4294967296
    ∧ Location.resolve ⟨"F.java", 4294967296, none⟩ "class A \x7b\x7d\n" = .ok 10
    ∧ ¬ Honours ⟨"F.java", 4294967296, none⟩ "class A \x7b\x7d\n" := by
  obtain ⟨hparse, hsize, hpast, hok⟩ :
      parse "F.java:4294967297" = .ok ⟨"F.java", 4294967296, none⟩
      ∧ byteLength "class A \x7b\x7d\n".toList < 2 ^ 32
      ∧ "class A \x7b\x7d\n".toList.count '\n' < 4294967296
      ∧ Location.resolve ⟨"F.java", 4294967296, none⟩ "class A \x7b\x7d\n" = .ok 10 := by
    decide +kernel
  exact ⟨hparse, hsize, hpast, hok, fun h => not_fails_of_ok hok (h.fails_iff.mpr hpast)⟩

end BeanMapper.Location
