import BeanMapper.Location
import BeanMapper.Proofs.Text.Numbers

/-!
# Arguments — what is read from one, and that it can be written again

    An argument is read from its end: as long as it ends in a colon and a
    number, that number is taken off, twice at most.  The syntax is ambiguous,
    since a path may end in a colon and a number too, and this rule decides.

    * `TakesOff` is one number taken off the end of a text and `Read` what the
      rule takes off an argument; `parse_cases` says that this is what is read
      and names the two faults.
    * `read_display` is the other direction: a location is written so that its
      numbers are taken off again, if it has a column or its path ends in no
      number itself.
    * `parse_inverts_display` puts them together, with the exact conditions
      for a fault and for what cannot be read back. -/

namespace BeanMapper.Location

open Text

variable {argument : String} {cs path rest : List Char} {location : Location}
  {line n : Nat} {column : Option Nat}

/-! ## What is taken off an argument -/

/-- A text ends in a colon and the spelling of a number, and `rest` stands before. -/
def TakesOff (cs rest : List Char) (n : Nat) : Prop :=
  ∃ number, cs = rest ++ ':' :: number ∧ Spells number n

/-- A text ends in a colon and the spelling of a number. -/
def EndsInNumber (cs : List Char) : Prop := ∃ rest n, TakesOff cs rest n

/-- Numbers are taken off the end of a text, one or two of them: a second one if what stands before
    the first ends in a number too. -/
inductive Read (cs : List Char) : List Char → Nat → Option Nat → Prop where
  /-- The only number is the line. -/
  | line {path : List Char} {n : Nat} :
      TakesOff cs path n → ¬ EndsInNumber path → Read cs path n none
  /-- Of two numbers the first is the line and the second the column. -/
  | column {rest path : List Char} {n m : Nat} :
      TakesOff cs rest n → TakesOff rest path m → Read cs path m (some n)

theorem splitNumber?_eq_some_iff : splitNumber? cs = some (rest, n) ↔ TakesOff cs rest n := by
  constructor
  · intro h
    rw [splitNumber?] at h
    cases hcut : splitLast? ':' cs with
    | none =>
        rw [hcut] at h
        exact nomatch h
    | some parts =>
        obtain ⟨before, number⟩ := parts
        rw [hcut] at h
        obtain ⟨k, hword, heq⟩ := Option.map_eq_some_iff.mp h
        cases heq
        exact ⟨number, (splitLast?_eq_some hcut).1, readWord?_eq_some_iff.mp hword⟩
  · rintro ⟨number, rfl, hspells⟩
    rw [splitNumber?, splitLast?_append hspells.colon_notMem]
    dsimp only
    rw [readWord?_eq_some_iff.mpr hspells, Option.map_some]

theorem splitNumber?_eq_none_iff : splitNumber? cs = none ↔ ¬ EndsInNumber cs := by
  rw [← not_iff_not, not_not, ← ne_eq, Option.ne_none_iff_exists']
  constructor
  · rintro ⟨⟨rest, n⟩, h⟩
    exact ⟨rest, n, splitNumber?_eq_some_iff.mp h⟩
  · rintro ⟨rest, n, h⟩
    exact ⟨(rest, n), splitNumber?_eq_some_iff.mpr h⟩

/-- From a text that ends in a number something is taken off. -/
theorem EndsInNumber.exists_read (h : EndsInNumber cs) :
    ∃ path line column, Read cs path line column := by
  obtain ⟨rest, n, hlast⟩ := h
  by_cases hmore : EndsInNumber rest
  · obtain ⟨path, m, hfirst⟩ := hmore
    exact ⟨path, m, some n, .column hlast hfirst⟩
  · exact ⟨rest, n, none, .line hlast hmore⟩

/-- What is taken off fits 64 bits. -/
theorem Read.lt (h : Read cs path line column) : line < 2 ^ 64 ∧ ∀ c ∈ column, c < 2 ^ 64 := by
  cases h with
  | line hlast =>
      obtain ⟨_, -, hspells⟩ := hlast
      exact ⟨hspells.lt, fun c hc => nomatch hc⟩
  | column hlast hfirst =>
      obtain ⟨_, -, hspells⟩ := hlast
      obtain ⟨_, -, hspells'⟩ := hfirst
      exact ⟨hspells'.lt, fun c hc => Option.some.inj hc ▸ hspells.lt⟩

/-! ## What is read -/

theorem parse_of_not_endsInNumber (h : ¬ EndsInNumber argument.toList) :
    parse argument = .error (.missingLine argument) := by
  rw [parse, splitNumber?_eq_none_iff.mpr h]

/-- **A location is what was taken off its argument**, unless no path is left. -/
theorem parse_of_read (h : Read argument.toList path line column) :
    parse argument = if path = [] then .error (.missingPath argument)
      else .ok ⟨String.ofList path, line - 1, column.map (· - 1)⟩ := by
  have hempty : path.isEmpty = true ↔ path = [] := List.isEmpty_iff
  cases h with
  | line hlast hplain =>
      rw [parse, splitNumber?_eq_some_iff.mpr hlast]
      dsimp only
      rw [splitNumber?_eq_none_iff.mpr hplain]
      simp only [hempty]
  | column hlast hfirst =>
      rw [parse, splitNumber?_eq_some_iff.mpr hlast]
      dsimp only
      rw [splitNumber?_eq_some_iff.mpr hfirst]
      simp only [hempty]

/-- **How an argument is read**: there is no number at its end, or nothing but numbers, or a path is
    left. -/
theorem parse_cases (argument : String) :
    (¬ EndsInNumber argument.toList ∧ parse argument = .error (.missingLine argument))
    ∨ (∃ line column, Read argument.toList [] line column
        ∧ parse argument = .error (.missingPath argument))
    ∨ ∃ path line column, Read argument.toList path line column ∧ path ≠ []
        ∧ parse argument = .ok ⟨String.ofList path, line - 1, column.map (· - 1)⟩ := by
  by_cases hend : EndsInNumber argument.toList
  · obtain ⟨path, line, column, hread⟩ := hend.exists_read
    have hparse := parse_of_read hread
    by_cases hpath : path = []
    · subst hpath
      rw [if_pos rfl] at hparse
      exact .inr (.inl ⟨line, column, hread, hparse⟩)
    · rw [if_neg hpath] at hparse
      exact .inr (.inr ⟨path, line, column, hread, hpath, hparse⟩)
  · exact .inl ⟨hend, parse_of_not_endsInNumber hend⟩

/-- Counting from zero instead of from one, with zero for one, is undone by counting from one. -/
theorem map_sub_one_iff {column column' : Option Nat} :
    column' = column.map (· - 1) ↔ column'.map (· + 1) = column.map (max · 1) := by
  cases column with
  | none => simp
  | some c =>
      cases column' with
      | none => simp
      | some c' =>
          simp only [Option.map_some, Option.some.injEq]
          omega

/-- **What is read as a location**: a path is left, and the numbers count from one, zero as one. -/
theorem parse_eq_ok_iff :
    parse argument = .ok location ↔ ∃ line column,
      Read argument.toList location.path.toList line column ∧ location.path ≠ ""
        ∧ location.line + 1 = max line 1
        ∧ location.column.map (· + 1) = column.map (max · 1) := by
  constructor
  · intro h
    rcases parse_cases argument with ⟨-, hparse⟩ | ⟨_, _, -, hparse⟩
      | ⟨path, line, column, hread, hpath, hparse⟩
    · exact nomatch h.symm.trans hparse
    · exact nomatch h.symm.trans hparse
    · obtain rfl := Except.ok.inj (h.symm.trans hparse)
      have hleft : String.ofList path ≠ "" := fun hempty =>
        hpath (by simpa using congrArg String.toList hempty)
      refine ⟨line, column, ?_, hleft, ?_, map_sub_one_iff.mp rfl⟩
      · rwa [String.toList_ofList]
      · show line - 1 + 1 = max line 1
        omega
  · rintro ⟨line, column, hread, hpath, hline, hcolumn⟩
    have hleft : location.path.toList ≠ [] := fun hnil => hpath (String.toList_inj.mp hnil)
    have hline' : line - 1 = location.line := by omega
    rw [parse_of_read hread, if_neg hleft, String.ofList_toList, hline',
      ← map_sub_one_iff.mpr hcolumn]

/-- **What is read as no location**: a text without a number at its end, or nothing but numbers. -/
theorem parse_eq_error_iff {fault : Fault} :
    parse argument = .error fault ↔
      (¬ EndsInNumber argument.toList ∧ fault = .missingLine argument)
        ∨ ((∃ line column, Read argument.toList [] line column)
          ∧ fault = .missingPath argument) := by
  constructor
  · intro h
    rcases parse_cases argument with ⟨hend, hparse⟩ | ⟨line, column, hread, hparse⟩
      | ⟨_, _, _, -, -, hparse⟩
    · exact .inl ⟨hend, Except.error.inj (h.symm.trans hparse)⟩
    · exact .inr ⟨⟨line, column, hread⟩, Except.error.inj (h.symm.trans hparse)⟩
    · exact nomatch h.symm.trans hparse
  · rintro (⟨hend, rfl⟩ | ⟨⟨line, column, hread⟩, rfl⟩)
    · exact parse_of_not_endsInNumber hend
    · exact (parse_of_read hread).trans (if_pos rfl)

/-- The indices that are read can be counted from one in 64 bits. -/
theorem lt_of_parse (h : parse argument = .ok location) :
    location.line + 1 < 2 ^ 64 ∧ ∀ c ∈ location.column, c + 1 < 2 ^ 64 := by
  obtain ⟨line, column, hread, -, hline, hcolumn⟩ := parse_eq_ok_iff.mp h
  obtain ⟨hlt, hltColumn⟩ := hread.lt
  refine ⟨by omega, fun c hc => ?_⟩
  rw [Option.mem_def.mp hc, Option.map_some] at hcolumn
  obtain ⟨k, hk, hc'⟩ := Option.map_eq_some_iff.mp hcolumn.symm
  have := hltColumn k hk
  omega

/-- A location without a column is only read with a path that ends in no number. -/
theorem isSome_or_not_endsInNumber (h : parse argument = .ok location) :
    location.column.isSome ∨ ¬ EndsInNumber location.path.toList := by
  obtain ⟨line, column, hread, -, -, hcolumn⟩ := parse_eq_ok_iff.mp h
  cases hread with
  | line _ hplain => exact .inr hplain
  | column _ _ =>
      rw [← Option.isSome_map (f := (· + 1)), hcolumn]
      exact .inl rfl

/-! ## What is written -/

theorem toList_colon (start number : String) :
    (start ++ ":" ++ number).toList = start.toList ++ ':' :: number.toList := by
  rw [String.toList_append, String.toList_append, List.append_assoc]
  rfl

/-- A colon and a number behind a text are taken off it. -/
theorem takesOff_toString (cs : List Char) (h : n < 2 ^ 64) :
    TakesOff (cs ++ ':' :: (toString n).toList) cs n :=
  ⟨_, rfl, spells_toString h⟩

/-- **A location is written so that its numbers are taken off again**, counted from one, if it has a
    column or its path ends in no number. -/
theorem read_display (hline : location.line + 1 < 2 ^ 64)
    (hcolumn : ∀ c ∈ location.column, c + 1 < 2 ^ 64)
    (hplain : location.column.isSome ∨ ¬ EndsInNumber location.path.toList) :
    Read location.display.toList location.path.toList (location.line + 1)
      (location.column.map (· + 1)) := by
  have hfirst := takesOff_toString location.path.toList hline
  rw [← toList_colon] at hfirst
  rw [display]
  cases hc : location.column with
  | none => exact .line hfirst (hplain.resolve_left (by simp [hc]))
  | some c =>
      dsimp only
      rw [toList_colon]
      exact .column (takesOff_toString _ (hcolumn c hc)) hfirst

/-- **A location is read back as it was written.** -/
theorem parse_display (hpath : location.path ≠ "") (hline : location.line + 1 < 2 ^ 64)
    (hcolumn : ∀ c ∈ location.column, c + 1 < 2 ^ 64)
    (hplain : location.column.isSome ∨ ¬ EndsInNumber location.path.toList) :
    parse location.display = .ok location := by
  refine parse_eq_ok_iff.mpr ⟨_, _, read_display hline hcolumn hplain, hpath, by omega, ?_⟩
  simp [Option.map_map, Function.comp_def]

/-- **Arguments and locations are inverse to each other.**  An argument is no location exactly if it
    ends in no number, or if no path is left of it, and the fault says which; otherwise the path is
    what is left, and line and column are the numbers that were taken off, counted from one and zero
    as one.  A location that was read can be written with numbers of 64 bits and is read back.  And
    of all locations with a path and with indices that can be written, those are read back that have
    a column or a path that ends in no number. -/
theorem parse_inverts_display :
    (∀ argument,
      (∀ fault, parse argument = .error fault ↔
        (¬ EndsInNumber argument.toList ∧ fault = .missingLine argument)
          ∨ ((∃ line column, Read argument.toList [] line column)
            ∧ fault = .missingPath argument))
      ∧ ∀ location, parse argument = .ok location ↔ ∃ line column,
          Read argument.toList location.path.toList line column ∧ location.path ≠ ""
            ∧ location.line + 1 = max line 1
            ∧ location.column.map (· + 1) = column.map (max · 1))
    ∧ (∀ argument location, parse argument = .ok location →
        location.line + 1 < 2 ^ 64 ∧ (∀ c ∈ location.column, c + 1 < 2 ^ 64)
          ∧ parse location.display = .ok location)
    ∧ ∀ location : Location, location.path ≠ "" → location.line < 2 ^ 64 - 1 →
        (∀ c ∈ location.column, c < 2 ^ 64 - 1) →
        (parse location.display = .ok location ↔
          location.column.isSome ∨ ¬ EndsInNumber location.path.toList) := by
  refine ⟨fun argument => ⟨fun fault => parse_eq_error_iff, fun location => parse_eq_ok_iff⟩,
    ?read, ?written⟩
  case read =>
    intro argument location h
    obtain ⟨hline, hcolumn⟩ := lt_of_parse h
    obtain ⟨_, _, _, hpath, _⟩ := parse_eq_ok_iff.mp h
    exact ⟨hline, hcolumn, parse_display hpath hline hcolumn (isSome_or_not_endsInNumber h)⟩
  case written =>
    intro location hpath hline hcolumn
    constructor
    · exact isSome_or_not_endsInNumber
    · refine parse_display hpath (by omega) fun c hc => ?_
      have := hcolumn c hc
      omega

/-- A path with a colon and a number in it is read up to the two numbers behind it, zero as one and
    past a plus sign and a leading zero; without a column the path loses its number. -/
theorem parse_of_numbered_path :
    parse "a:7:+0:08" = .ok ⟨"a:7", 0, some 7⟩
    ∧ parse (display ⟨"a:7", 0, some 7⟩) = .ok ⟨"a:7", 0, some 7⟩
    ∧ EndsInNumber "a:7".toList
    ∧ parse (display ⟨"a:7", 0, none⟩) ≠ .ok ⟨"a:7", 0, none⟩ := by
  have hparse : parse "a:7:+0:08" = .ok ⟨"a:7", 0, some 7⟩ := by rfl
  have hnumber : EndsInNumber "a:7".toList :=
    ⟨"a".toList, 7, splitNumber?_eq_some_iff.mp (by rfl)⟩
  obtain ⟨-, hread, hwritten⟩ := parse_inverts_display
  refine ⟨hparse, (hread _ _ hparse).2.2, hnumber, fun h => ?_⟩
  rcases (hwritten ⟨"a:7", 0, none⟩ (by decide) (by decide) (fun c hc => nomatch hc)).mp h
    with hsome | hplain
  · exact nomatch hsome
  · exact hplain hnumber

end BeanMapper.Location
