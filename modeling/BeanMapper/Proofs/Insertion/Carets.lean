import BeanMapper.Proofs.Insertion.Indentation

/-!
# Carets — where the inserted bytes stand, and the position behind them

    An insertion tells the offsets between which it put the snippet.  The
    bytes between them are the snippet as it was put in, and without them the
    text is the document again (`Splices`).  The caret stands behind them, and
    its position follows from that of the offset: as many lines below as
    newlines were put in, and behind the last line of what was put in
    (`positions_of_insert`).  Both are counted from the cut, so the argument
    is about the newlines and the last line of a text with another one behind
    it (`Text.length_lastLine_append`). -/

namespace BeanMapper.Insertion

open Text

variable {document snippet : String} {unit : Option String} {offset : Nat} {i : Insertion}

/-- The bytes of a snippet are put into a document at an offset, and nothing else happens to it. -/
structure Splices (document : String) (offset : Nat) (snippet : String) (unit : Option String)
    (i : Insertion) : Prop where
  /-- The bytes start at the offset. -/
  start_eq : i.start = offset
  /-- The caret stands behind them. -/
  caret_eq : i.caret = i.stop
  /-- They start between two characters. -/
  start_boundary : IsBoundary i.text.toList i.start
  /-- They end between two characters. -/
  stop_boundary : IsBoundary i.text.toList i.stop
  /-- Without a unit they are those of the snippet. -/
  plain : unit = none → slice i.text.toList i.start i.stop = snippet.toList
  /-- With a unit they are those of the snippet under the indentation of the line at the offset. -/
  indented : ∀ u, unit = some u → ∃ indent, IndentAt document.toList offset indent
    ∧ Reindents indent u.toList snippet.toList (slice i.text.toList i.start i.stop)
  /-- Without them the text is the document. -/
  without : without? i.start i.stop i.text.toList = some document.toList

theorem insert_eq_error_iff {e : InsertionError} :
    insert document offset snippet unit = .error e ↔
      ¬ IsBoundary document.toList offset
        ∧ e = .notABoundary offset (byteLength document.toList) := by
  rw [← splitAt?_eq_none_iff, insert]
  cases splitAt? offset document.toList with
  | none =>
      constructor
      · intro h
        exact ⟨rfl, (Except.error.inj h).symm⟩
      · rintro ⟨-, rfl⟩
        rfl
  | some parts => simp

/-- The bytes of an insertion stand between the two cuts of the text. -/
theorem boundaries_of_insert (h : insert document offset snippet unit = .ok i) :
    IsBoundary i.text.toList i.start ∧ IsBoundary i.text.toList i.stop := by
  obtain ⟨before, after, hcut, rfl⟩ := insert_eq_ok_iff.mp h
  have hbytes := byteLength_of_splitAt? hcut
  subst hbytes
  rw [String.toList_ofList, List.append_assoc]
  refine ⟨⟨before, _, rfl, rfl⟩, ⟨before ++ _, after, List.append_assoc _ _ _, ?_⟩⟩
  exact byteLength_append _ _

theorem splices_of_insert (h : insert document offset snippet unit = .ok i) :
    Splices document offset snippet unit i where
  start_eq := start_of_insert h
  caret_eq := rfl
  start_boundary := (boundaries_of_insert h).1
  stop_boundary := (boundaries_of_insert h).2
  plain := by
    rintro rfl
    obtain ⟨before, after, -, hslice⟩ := slice_of_insert h
    exact hslice
  indented := by
    rintro u rfl
    exact reindents_of_insert h
  without := without?_of_insert h

/-- **The position of the caret** follows from that of the offset. -/
theorem positions_of_insert (h : insert document offset snippet unit = .ok i) :
    ∃ p q, Position.fromOffset? document offset = some p
      ∧ Position.fromOffset? i.text i.caret = some q
      ∧ (byteLength i.text.toList < 2 ^ 32 →
          q.line.toNat = p.line.toNat + (slice i.text.toList i.start i.stop).count '\n'
            ∧ q.character.toNat = (lastLine (slice i.text.toList i.start i.stop)).length
              + if (slice i.text.toList i.start i.stop).count '\n' = 0 then p.character.toNat
                else 0) := by
  obtain ⟨before, after, hcut, rfl⟩ := insert_eq_ok_iff.mp h
  generalize fit before after snippet.toList unit = inserted
  obtain ⟨htext, rfl⟩ := splitAt?_eq_some_iff.mp hcut
  rw [slice_spliced]
  have hcaret : splitAt? (byteLength before + byteLength inserted) (before ++ inserted ++ after)
      = some (before ++ inserted, after) := by
    rw [← byteLength_append]
    exact splitAt?_append _ _
  refine ⟨Position.atEndOf before, Position.atEndOf (before ++ inserted), ?_, ?_, fun hsize => ?_⟩
  · rw [Position.fromOffset?, hcut, Option.map_some]
  · rw [Position.fromOffset?, String.toList_ofList]
    exact congrArg _ hcaret
  · rw [String.toList_ofList, byteLength_append] at hsize
    have hbehind : byteLength (before ++ inserted) < 2 ^ 32 := by omega
    have hbefore : byteLength before < 2 ^ 32 := by
      rw [byteLength_append] at hbehind
      omega
    obtain ⟨hline, hcharacter⟩ := Position.toNat_atEndOf hbefore
    obtain ⟨hline', hcharacter'⟩ := Position.toNat_atEndOf hbehind
    rw [hline, hline', hcharacter, hcharacter', List.count_append]
    exact ⟨rfl, length_lastLine_append before inserted⟩

/-- **An insertion splices a snippet in and does nothing else.**  It fails exactly if the offset is
    past the end of the document or inside a character, and says so with the length of the document.
    Otherwise the bytes between the offset and the caret are those of the snippet as it was put in,
    and without them the text is the document.  The caret has a position, and in a text whose bytes
    can be counted this is as many lines below that of the offset as newlines were put in, behind
    the characters of the last line of what was put in, and on the same line also behind those
    before the offset. -/
theorem insertion_splices_exactly (document snippet : String) (offset : Nat)
    (unit : Option String) :
    (∀ e, insert document offset snippet unit = .error e ↔
        (byteLength document.toList < offset ∨ ¬ IsBoundary document.toList offset)
          ∧ e = .notABoundary offset (byteLength document.toList))
    ∧ ∀ i, insert document offset snippet unit = .ok i →
        Splices document offset snippet unit i
        ∧ ∃ p q, Position.fromOffset? document offset = some p
          ∧ Position.fromOffset? i.text i.caret = some q
          ∧ (byteLength i.text.toList < 2 ^ 32 →
              q.line.toNat = p.line.toNat + (slice i.text.toList i.start i.stop).count '\n'
                ∧ q.character.toNat = (lastLine (slice i.text.toList i.start i.stop)).length
                  + if (slice i.text.toList i.start i.stop).count '\n' = 0 then p.character.toNat
                    else 0) := by
  refine ⟨fun e => ?_, fun i h => ⟨splices_of_insert h, positions_of_insert h⟩⟩
  rw [insert_eq_error_iff]
  refine and_congr_left fun _ => ⟨.inr, ?_⟩
  rintro (hpast | hinside) hboundary
  · exact absurd hboundary.le_byteLength (Nat.not_le.mpr hpast)
  · exact hinside hboundary

/-- A snippet of two lines behind a wide character: the caret is one line below, behind the indented
    second line and before the rest of the first. -/
theorem caret_behind_two_lines :
    ∃ i, insert "\té=1" 3 "a;\né;" (some "  ") = .ok i ∧ i.text = "\téa;\n\té;=1"
      ∧ without? i.start i.stop i.text.toList = some "\té=1".toList
      ∧ byteLength i.text.toList < 2 ^ 32
      ∧ ∃ p q, Position.fromOffset? "\té=1" 3 = some p ∧ p = ⟨0, 2⟩
        ∧ Position.fromOffset? i.text i.caret = some q ∧ q.line.toNat = p.line.toNat + 1
        ∧ q.character.toNat = 3 := by
  have hinsert : insert "\té=1" 3 "a;\né;" (some "  ") = .ok ⟨"\téa;\n\té;=1", 3, 10⟩ := by rfl
  have hsize : byteLength "\téa;\n\té;=1".toList < 2 ^ 32 := by decide +kernel
  obtain ⟨-, hok⟩ := insertion_splices_exactly "\té=1" "a;\né;" 3 (some "  ")
  obtain ⟨hsplices, p, q, hp, hq, hposition⟩ := hok _ hinsert
  have hp' : p = ⟨0, 2⟩ := Option.some.inj (hp.symm.trans (by decide +kernel))
  obtain ⟨hline, hcharacter⟩ := hposition hsize
  refine ⟨_, hinsert, rfl, hsplices.without, hsize, p, q, hp, hp', hq, ?_, ?_⟩
  · rw [hline]
    rfl
  · rw [hcharacter]
    rfl

end BeanMapper.Insertion
