import BeanMapper.Proofs.Command.Generate

/-!
# Cursors — a snippet fits in wherever a location stands

    The offset of a location comes from a position, and a position stands
    between the characters of a line without its carriage return.  So the text
    can be cut there, no line end is parted, and every snippet can be inserted,
    whatever indices the location has.  The command that makes a snippet
    therefore never fails because the snippet does not fit in. -/

namespace BeanMapper

open Text

variable {location : Location} {source : String} {offset : Nat}

/-- **The offset of a location can be cut at**, and no line end is parted there. -/
theorem Location.exists_splitAt?_of_resolve (h : location.resolve source = .ok offset) :
    ∃ before after, splitAt? offset source.toList = some (before, after) ∧ ¬ Parts before after := by
  obtain ⟨p, -, hoffset⟩ := Option.bind_eq_some_iff.mp (Location.resolve_eq_ok_iff.mp h)
  exact Position.exists_splitAt?_of_toOffset? hoffset

/-- Every snippet can be inserted at the offset of a location, with the line ends surviving. -/
theorem Location.exists_insertion_of_resolve (h : location.resolve source = .ok offset)
    (snippet : String) (unit : Option String) :
    ∃ i, Insertion.insert source offset snippet unit = .ok i
      ∧ ∀ n, LineEndAt source.toList n →
          LineEndAt i.text.toList (if n < offset then n else n + (i.stop - i.start)) := by
  obtain ⟨before, after, hcut, hparts⟩ := Location.exists_splitAt?_of_resolve h
  have hinsert : Insertion.insert source offset snippet unit = .ok _ :=
    Insertion.insert_eq_ok_iff.mpr ⟨before, after, hcut, rfl⟩
  refine ⟨_, hinsert, fun n hn => ?_⟩
  refine Insertion.lineEndAt_of_insert hinsert (fun b a hcut' => ?_) hn
  rw [hcut] at hcut'
  cases hcut'
  exact hparts

namespace Command

variable {fs : FileSystem} {argument : String} {sourceRoot : Option String} {o : Opened}

/-- A snippet fits in at the cursor of a file that was opened. -/
theorem insertion_ne_error (h : opened fs argument sourceRoot = .ok o) (g : GeneratedText)
    (t : Trouble) : o.insertion g ≠ .error t := by
  obtain ⟨-, -, hoffset⟩ := opened_eq_ok h
  obtain ⟨i, hi, -⟩ :=
    Location.exists_insertion_of_resolve hoffset g.text o.config.insertionUnit
  rw [Opened.insertion, hi]
  exact fun h => nomatch h

/-- **Where a location stands, every snippet can be inserted.**  The offset of a location is in the
    text and a character boundary, it parts no line end, every snippet can be inserted there, with or
    without indentation, and each line end of the text is still there, as far behind its place as
    bytes were inserted before it.  So the command that makes a snippet never ends because the snippet
    cannot be inserted. -/
theorem resolved_offset_is_insertable :
    (∀ (location : Location) (source : String) (offset : Nat),
      location.resolve source = .ok offset →
        offset ≤ byteLength source.toList
        ∧ (∃ before after, splitAt? offset source.toList = some (before, after)
            ∧ ¬ Parts before after)
        ∧ ∀ snippet unit, ∃ i, Insertion.insert source offset snippet unit = .ok i
            ∧ ∀ n, LineEndAt source.toList n →
                LineEndAt i.text.toList (if n < offset then n else n + (i.stop - i.start)))
    ∧ ∀ (fs : FileSystem) (argument : String) (sourceRoot : Option String) (write json : Bool)
        (e : InsertionError),
        ((answer (.generate argument sourceRoot write json)).on fs).1
          ≠ .error (.other (.insertion e)) := by
  constructor
  · intro location source offset h
    have hcut := Location.exists_splitAt?_of_resolve h
    refine ⟨?_, hcut, Location.exists_insertion_of_resolve h⟩
    obtain ⟨before, after, hsplit, -⟩ := hcut
    rw [← append_of_splitAt? hsplit, byteLength_append, byteLength_of_splitAt? hsplit]
    exact Nat.le_add_right _ _
  · intro fs argument sourceRoot write json e herror
    have hends := ends_generate fs argument sourceRoot write json
    rw [herror] at hends
    generalize ((answer (.generate argument sourceRoot write json)).on fs).2 = after at hends
    cases hends with
    | unopened hopened => exact opened_ne_other hopened
    | unmapped _ hanalysis =>
        obtain ⟨_, habort⟩ := exists_of_mapError hanalysis
        exact nomatch habort
    | unfit hopened _ hinsertion => exact insertion_ne_error hopened _ _ hinsertion

/-- Two line ends of a text survive a snippet of three lines, one before it and one behind it. -/
theorem insertable_between_line_ends :
    Location.resolve ⟨"A.java", 0, none⟩ "B m()\x7b\r\n\t\r\n\x7d" = .ok 9
    ∧ LineEndAt "B m()\x7b\r\n\t\r\n\x7d".toList 6 ∧ LineEndAt "B m()\x7b\r\n\t\r\n\x7d".toList 9
    ∧ ∃ i, Insertion.insert "B m()\x7b\r\n\t\r\n\x7d" 9 "return new B()\n.setX(x)\n;" (some " ") = .ok i
        ∧ LineEndAt i.text.toList 6 ∧ LineEndAt i.text.toList (9 + (i.stop - i.start)) := by
  have hok : Location.resolve ⟨"A.java", 0, none⟩ "B m()\x7b\r\n\t\r\n\x7d" = .ok 9 := by decide +kernel
  have hfirst : LineEndAt "B m()\x7b\r\n\t\r\n\x7d".toList 6 :=
    ⟨"B m()\x7b".toList, "\t\r\n\x7d".toList, by decide +kernel⟩
  have hsecond : LineEndAt "B m()\x7b\r\n\t\r\n\x7d".toList 9 :=
    ⟨"B m()\x7b\r\n\t".toList, "\x7d".toList, by decide +kernel⟩
  obtain ⟨-, -, hinsert⟩ := resolved_offset_is_insertable.1 _ _ 9 hok
  obtain ⟨i, hi, hends⟩ := hinsert "return new B()\n.setX(x)\n;" (some " ")
  exact ⟨hok, hfirst, hsecond, i, hi, hends 6 hfirst, hends 9 hsecond⟩

end Command

end BeanMapper
