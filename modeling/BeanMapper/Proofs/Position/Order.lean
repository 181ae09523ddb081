import BeanMapper.Proofs.Position.RoundTrip

/-!
# Order — positions come in the order of their offsets

    Positions are ordered by their lines first and then by their characters,
    and offsets by the bytes before them.  Two cuts of one text lie behind
    each other, and what is between them holds a newline, or else it goes on
    with the line that is cut: so the cut with more bytes before it stands on
    a later line, or further on the same one (`standsAt_lt`).  Everything else
    follows from that: the positions of offsets are ordered as the offsets
    are, and no position before another one has an offset behind that of the
    other, wherever the characters are clamped
    (`positions_ordered_as_offsets`). -/

namespace BeanMapper

namespace Text

variable {cs : List Char} {offset offset' line line' character character' : Nat}

/-- **A cut with more bytes before it** stands on a later line or further on the same one. -/
theorem standsAt_lt (h : StandsAt cs offset line character)
    (h' : StandsAt cs offset' line' character') (hlt : offset < offset') :
    line < line' ∨ line = line' ∧ character < character' := by
  obtain ⟨before, after, hcut, rfl, rfl⟩ := h
  obtain ⟨before', after', hcut', rfl, rfl⟩ := h'
  obtain ⟨htext, rfl⟩ := splitAt?_eq_some_iff.mp hcut
  obtain ⟨htext', rfl⟩ := splitAt?_eq_some_iff.mp hcut'
  obtain ⟨between, rfl⟩ : ∃ between, before ++ between = before' := by
    rcases List.append_eq_append_iff.mp (htext.trans htext'.symm) with ⟨m, hm, -⟩ | ⟨m, hm, -⟩
    · exact ⟨m, hm.symm⟩
    · rw [hm, byteLength_append] at hlt
      omega
  have hbetween : 0 < between.length := List.length_pos_iff.mpr fun hnil => by
    rw [hnil, List.append_nil] at hlt
    exact Nat.lt_irrefl _ hlt
  rw [List.count_append]
  by_cases hnewline : between.count '\n' = 0
  · -- no newline between the cuts: what is between them stands on the line of the first one
    refine .inr ⟨by omega, ?_⟩
    rw [lastLine_append_of_notMem (List.count_eq_zero.mp hnewline), List.length_append]
    omega
  · exact .inl (by omega)

end Text

namespace Position

open Text

variable {source : String} {p q : Position} {offset offset' : Nat}

/-- Whether a position stands before another one, and that one not before it. -/
def lt (p q : Position) : Bool := p.le q && !q.le p

theorem le_iff : p.le q = true
    ↔ p.line.toNat < q.line.toNat
      ∨ p.line.toNat = q.line.toNat ∧ p.character.toNat ≤ q.character.toNat := by
  simp [le, UInt32.lt_iff_toNat_lt, UInt32.le_iff_toNat_le, UInt32.toNat_inj]

/-- The strict order compares the lines first, and on one line the characters. -/
theorem lt_iff : p.lt q = true
    ↔ p.line.toNat < q.line.toNat
      ∨ p.line.toNat = q.line.toNat ∧ p.character.toNat < q.character.toNat := by
  rw [lt, Bool.and_eq_true, Bool.not_eq_true', ← Bool.not_eq_true, le_iff, le_iff]
  omega

/-- The position of an offset is where the text is cut there, if its bytes can be counted. -/
theorem standsAt_of_fromOffset? (hsize : byteLength source.toList < 2 ^ 32)
    (h : fromOffset? source offset = some p) :
    StandsAt source.toList offset p.line.toNat p.character.toNat := by
  obtain ⟨⟨before, after⟩, hcut, rfl⟩ := Option.map_eq_some_iff.mp h
  obtain ⟨htext, hbytes⟩ := splitAt?_eq_some_iff.mp hcut
  have hbefore : byteLength before < 2 ^ 32 :=
    (IsBoundary.le_byteLength ⟨before, after, htext, rfl⟩).trans_lt hsize
  obtain ⟨hline, hcharacter⟩ := toNat_atEndOf hbefore
  exact ⟨before, after, hcut, hline.symm, hcharacter.symm⟩

/-- **The positions of offsets are ordered as the offsets are.** -/
theorem lt_iff_of_fromOffset? (hsize : byteLength source.toList < 2 ^ 32)
    (h : fromOffset? source offset = some p) (h' : fromOffset? source offset' = some q) :
    p.lt q = true ↔ offset < offset' := by
  have hstands := standsAt_of_fromOffset? hsize h
  have hstands' := standsAt_of_fromOffset? hsize h'
  rw [lt_iff]
  constructor
  · intro hlt
    rcases Nat.lt_trichotomy offset offset' with hless | rfl | hmore
    · exact hless
    · obtain rfl : p = q := Option.some.inj (h.symm.trans h')
      omega
    · have hback := standsAt_lt hstands' hstands hmore
      omega
  · exact standsAt_lt hstands hstands'

/-- **A position before another one has no offset behind the other's**, wherever their characters
    are clamped to their lines. -/
theorem offset_le_of_le (hle : p.le q = true) (h : p.toOffset? source = some offset)
    (h' : q.toOffset? source = some offset') : offset ≤ offset' := by
  refine Nat.le_of_not_lt fun hmore => ?_
  have hback := standsAt_lt (standsAt_of_toOffset? h') (standsAt_of_toOffset? h) hmore
  rcases le_iff.mp hle with hline | ⟨hline, hcharacter⟩
  · omega
  · rw [hline] at hback
    omega

/-- **The order on positions is the order on offsets**, in a text whose bytes can be counted with
    32 bits.  Any two places where the text can be cut have positions, and one position stands
    before the other exactly if its offset is the smaller one.  And of two positions with offsets,
    the one that stands before the other, or is the same, has no larger offset. -/
theorem positions_ordered_as_offsets (source : String) (hsize : byteLength source.toList < 2 ^ 32) :
    (∀ offset offset', IsBoundary source.toList offset → IsBoundary source.toList offset' →
      ∃ p q, fromOffset? source offset = some p ∧ fromOffset? source offset' = some q
        ∧ (p.lt q = true ↔ offset < offset'))
    ∧ ∀ (p q : Position) (offset offset' : Nat), p.le q = true →
      p.toOffset? source = some offset → q.toOffset? source = some offset' → offset ≤ offset' := by
  constructor
  · intro offset offset' hboundary hboundary'
    have hsome : ∀ {o}, IsBoundary source.toList o → ∃ p, fromOffset? source o = some p :=
      fun ho => Option.ne_none_iff_exists'.mp fun hnone => fromOffset?_eq_none_iff.mp hnone ho
    obtain ⟨p, hp⟩ := hsome hboundary
    obtain ⟨q, hq⟩ := hsome hboundary'
    exact ⟨p, q, hp, hq, lt_iff_of_fromOffset? hsize hp hq⟩
  · intro p q offset offset' hle h h'
    exact offset_le_of_le hle h h'

/-- Around the line end of two characters the positions come in the order of their offsets, and a
    position past that line has no larger offset than the beginning of the next one. -/
theorem positions_around_line_end :
    byteLength "é\r\nb".toList < 2 ^ 32
      ∧ (∃ p q, fromOffset? "é\r\nb" 3 = some p ∧ fromOffset? "é\r\nb" 4 = some q
        ∧ p.lt q = true)
      ∧ (⟨0, 9⟩ : Position).toOffset? "é\r\nb" = some 2
      ∧ (⟨1, 0⟩ : Position).toOffset? "é\r\nb" = some 4 ∧ 2 ≤ 4 := by
  have hsize : byteLength "é\r\nb".toList < 2 ^ 32 := by decide +kernel
  have hpast : (⟨0, 9⟩ : Position).toOffset? "é\r\nb" = some 2 := by decide +kernel
  have hnext : (⟨1, 0⟩ : Position).toOffset? "é\r\nb" = some 4 := by decide +kernel
  obtain ⟨hfrom, hto⟩ := positions_ordered_as_offsets "é\r\nb" hsize
  obtain ⟨p, q, hp, hq, hiff⟩ := hfrom 3 4 ⟨['é', '\r'], ['\n', 'b'], by decide +kernel, by decide +kernel⟩
    ⟨['é', '\r', '\n'], ['b'], by decide +kernel, by decide +kernel⟩
  exact ⟨hsize, ⟨p, q, hp, hq, hiff.mpr (by decide)⟩, hpast, hnext,
    hto ⟨0, 9⟩ ⟨1, 0⟩ 2 4 (by decide +kernel) hpast hnext⟩

end Position

end BeanMapper
