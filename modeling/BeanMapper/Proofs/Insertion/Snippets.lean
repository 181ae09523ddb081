import BeanMapper.Proofs.Insertion.Indentation
import BeanMapper.Proofs.Mapping.Capture
import BeanMapper.Proofs.Mapping.Rendering

/-!
# Snippets — generated lines under the indentation of a document

    An insertion tells a chained call from a statement by the dot that its line
    starts with.  That is a convention: it holds because a line of a chained
    snippet starts with a dot (`exists_lead`), and because one of an imperative
    snippet starts with `return` or with the name of a variable, which a valid
    configuration begins with a letter, `_` or `$`
    (`exists_first_of_isVariableName`).  None of them is blank, so all are
    indented, and none holds a newline if no name does (`unbroken_matched`).

    `generated_lines_indented` puts generation, rendering, validation and
    insertion together. -/

namespace BeanMapper

/-! ## Valid configurations -/

/-- No character is alphabetic and white space. -/
theorem Unicode.isWhiteSpace_of_isAlphabetic {c : Char} (h : isAlphabetic c = true) :
    isWhiteSpace c = false :=
  inRanges_eq_false_of_apart (by decide +kernel) h

namespace Config

variable {config : Config} {name : List Char}

/-- **The name of a variable starts with something that is neither blank nor a dot.** -/
theorem exists_first_of_isVariableName (h : isVariableName name = true) :
    ∃ c more, name = c :: more ∧ Unicode.isWhiteSpace c = false ∧ c ≠ '.' := by
  cases name with
  | nil => exact nomatch h
  | cons c more =>
      rw [isVariableName, Bool.and_eq_true, Bool.or_eq_true, Bool.or_eq_true, beq_iff_eq,
        beq_iff_eq] at h
      obtain ⟨(hletter | rfl) | rfl, -⟩ := h
      · refine ⟨c, more, rfl, Unicode.isWhiteSpace_of_isAlphabetic hletter, ?_⟩
        rintro rfl
        exact absurd hletter (by decide +kernel)
      · exact ⟨_, more, rfl, by decide +kernel, by decide⟩
      · exact ⟨_, more, rfl, by decide +kernel, by decide⟩

theorem newline_notMem_of_isVariableName (h : isVariableName name = true) : '\n' ∉ name := by
  cases name with
  | nil => exact nomatch h
  | cons c more =>
      rw [isVariableName, Bool.and_eq_true, List.all_eq_true] at h
      obtain ⟨hfirst, hmore⟩ := h
      rintro hmem
      rcases List.mem_cons.mp hmem with rfl | hmem
      · exact absurd hfirst (by decide +kernel)
      · exact absurd (hmore _ hmem) (by decide +kernel)

theorem isValid_iff :
    config.isValid = true ↔ isVariableName config.localVariable.toList = true
      ∧ Text.isBlank config.nullLiteral.toList = false
      ∧ ∀ c ∈ config.indentUnit.toList, c = ' ' ∨ c = '\t' := by
  have hunit : config.indentUnit.toList.all (fun c => c == ' ' || c == '\t') = true
      ↔ ∀ c ∈ config.indentUnit.toList, c = ' ' ∨ c = '\t' := by simp
  rw [← hunit, isValid, fault?]
  cases isVariableName config.localVariable.toList <;>
    cases Text.isBlank config.nullLiteral.toList <;>
    cases config.indentUnit.toList.all (fun c => c == ' ' || c == '\t') <;> simp

end Config

namespace Snippet

open Insertion Text

variable {config : Config} {target source : Declaration} {options : RenderOptions} {mode : Mode}
  {name word : String} {ms : List SetterMatch} {indent line line' : List Char}

/-! ## The lines of a generated snippet -/

/-- **The lines of a generated snippet hold no newline** if none of its names does. -/
theorem unbroken_matched (hvalid : config.isValid = true)
    (hnull : '\n' ∉ config.nullLiteral.toList) (hname : '\n' ∉ target.typeName.name.toList)
    (hsetters : ∀ m ∈ target.methods, '\n' ∉ m.name.toList)
    (hfields : ∀ f ∈ source.fields, '\n' ∉ f.name.toList) :
    Unbroken target.typeName.name config.renderOptions (matchSetters target source) := by
  obtain ⟨hlocal, -, -⟩ := Config.isValid_iff.mp hvalid
  have hmatched {x : SetterMatch} (hx : x ∈ matchSetters target source) :
      ∃ m ∈ target.methods, matchOf source m = some x := by
    rw [matchSetters_eq_filterMap] at hx
    exact List.mem_filterMap.mp hx
  refine ⟨hname, Config.newline_notMem_of_isVariableName hlocal, hnull, ?setter, ?field⟩
  case setter =>
    intro x hx
    obtain ⟨m, hm, hmatch⟩ := hmatched hx
    obtain ⟨key, -, rfl⟩ := Option.map_eq_some_iff.mp hmatch
    exact hsetters m hm
  case field =>
    intro x hx name hfield
    obtain ⟨m, -, hmatch⟩ := hmatched hx
    obtain ⟨-, f, hlast, rfl⟩ := field_of_matchOf hmatch hfield
    exact hfields f hlast.mem

/-- What a line behind the first one starts with. -/
inductive Lead (options : RenderOptions) : Mode → String → Prop where
  /-- A chained call starts with its dot. -/
  | call : Lead options .chainedBuilder "."
  /-- A call on the variable starts with the name of the variable. -/
  | receiver : Lead options .imperativeAssignment options.localVariable
  /-- The last statement gives the variable back. -/
  | result : Lead options .imperativeAssignment "return"

/-- **Every line behind the first one starts with a word of its mode.** -/
theorem exists_lead {line : String} (h : line ∈ (linesOf name ms options mode).tail) :
    ∃ word, Lead options mode word ∧ word.toList <+: line.toList := by
  cases mode with
  | chainedBuilder =>
      obtain ⟨i, hi⟩ := List.getElem?_of_mem h
      rw [List.getElem?_tail, linesOf, getElem?_closed, Option.map_eq_some_iff] at hi
      obtain ⟨plain, hplain, rfl⟩ := hi
      obtain ⟨m, -, rfl⟩ := List.mem_map.mp (List.mem_of_getElem? hplain)
      refine ⟨_, .call, ?_⟩
      split <;> simp [Snippet.call]
  | imperativeAssignment =>
      rcases List.mem_append.mp h with hcall | hresult
      · obtain ⟨m, -, rfl⟩ := List.mem_map.mp hcall
        exact ⟨_, .receiver, by simp [Snippet.call]⟩
      · obtain rfl := List.mem_singleton.mp hresult
        exact ⟨_, .result, by simp⟩

/-- **The editor tells the modes apart by the first character**: it is no white space, and a dot
    exactly in the chained mode. -/
theorem Lead.exists_first (hvalid : config.isValid = true)
    (h : Lead config.renderOptions mode word) :
    ∃ c more, word.toList = c :: more ∧ Unicode.isWhiteSpace c = false
      ∧ (c = '.' ↔ mode = .chainedBuilder) := by
  cases h with
  | call => exact ⟨'.', [], rfl, by decide +kernel, by simp⟩
  | receiver =>
      obtain ⟨hlocal, -, -⟩ := Config.isValid_iff.mp hvalid
      obtain ⟨c, more, hword, hspace, hdot⟩ := Config.exists_first_of_isVariableName hlocal
      exact ⟨c, more, hword, hspace, by simp [hdot]⟩
  | result => exact ⟨'r', "eturn".toList, rfl, by decide +kernel, by simp⟩

/-- What is written in front of the lines behind the first one. -/
def margin (indent unit : List Char) : Mode → List Char
  | .chainedBuilder => indent ++ unit
  | .imperativeAssignment => indent

/-- **Under an indentation**, a line that starts with a word of its mode gets the margin of the mode
    and no more. -/
theorem Lead.of_indents {unit : List Char} (hvalid : config.isValid = true)
    (h : Lead config.renderOptions mode word) (hword : word.toList <+: line)
    (hindents : Indents indent unit line line') (hindent : ∀ c ∈ indent, c = ' ' ∨ c = '\t')
    (hunit : ∀ c ∈ unit, c = ' ' ∨ c = '\t') :
    margin indent unit mode ++ word.toList <+: line'
      ∧ IsIndentOf (margin indent unit mode) line' := by
  obtain ⟨c, more, hfirst, hspace, hdot⟩ := h.exists_first hvalid
  obtain ⟨behind, rfl⟩ := hword
  rw [hfirst] at hindents ⊢
  have hmargin : (if c = '.' then indent ++ unit else indent) = margin indent unit mode := by
    cases mode with
    | chainedBuilder => exact if_pos (hdot.mpr rfl)
    | imperativeAssignment => exact if_neg fun hc => nomatch hdot.mp hc
  have hblank : ∀ c ∈ margin indent unit mode, c = ' ' ∨ c = '\t' := by
    cases mode with
    | chainedBuilder => exact List.forall_mem_append.mpr ⟨hindent, hunit⟩
    | imperativeAssignment => exact hindent
  have hline := hindents.eq_of_cons hspace
  rw [hmargin] at hline
  subst hline
  exact ⟨⟨behind, List.append_assoc _ _ _⟩, isIndentOf_append hblank hspace⟩

/-- **The lines of a snippet under an indentation** are as many as were rendered, and behind the
    first one they have the margin of the mode. -/
theorem lines_of_reindents {inserted : List Char} (hvalid : config.isValid = true)
    (hunbroken : Unbroken name config.renderOptions ms)
    (hindent : ∀ c ∈ indent, c = ' ' ∨ c = '\t')
    (h : Reindents indent config.indentUnit.toList (render mode name ms config.renderOptions).toList
      inserted) :
    ∃ first rest, splitLines inserted = first :: rest
      ∧ rest.length + 1 = ms.length + linesAround mode
      ∧ ∀ line ∈ rest, ∃ word, Lead config.renderOptions mode word
        ∧ margin indent config.indentUnit.toList mode ++ word.toList <+: line
        ∧ IsIndentOf (margin indent config.indentUnit.toList mode) line := by
  obtain ⟨-, -, hunit⟩ := Config.isValid_iff.mp hvalid
  obtain ⟨first, rest, rest', hsnippet, hinserted, hlines⟩ :=
    h.splitLines (newline_notMem_of_blank hindent) (newline_notMem_of_blank hunit)
  rw [hunbroken.splitLines_render] at hsnippet
  refine ⟨first, rest', hinserted, ?count, ?lead⟩
  case count =>
    have hlength := congrArg List.length hsnippet
    rw [List.length_map, length_linesOf, List.length_cons, hlines.length_eq] at hlength
    exact hlength.symm
  case lead =>
    intro line' hline'
    obtain ⟨line, hline, hindents⟩ := exists_indents_of_mem hlines hline'
    have hrest := congrArg List.tail hsnippet
    rw [← List.map_tail, List.tail_cons] at hrest
    rw [← hrest] at hline
    obtain ⟨text, htext, rfl⟩ := List.mem_map.mp hline
    obtain ⟨word, hword, hstart⟩ := exists_lead htext
    exact ⟨word, hword, hword.of_indents hvalid hstart hindents hindent hunit⟩

end Snippet

open Insertion Text

/-- **Renderer and editor agree on what a chained line is.**  With a valid configuration, where no
    name that is written and no null literal holds a newline, a generated snippet can be inserted
    wherever the document can be cut, and the inserted text has one line for each setter between its
    other lines.  In an imperative snippet each line behind the first one has exactly the
    indentation of the line at the offset, and then the variable or `return`; in a chained one it
    has exactly this indentation and one unit more, and then a dot. -/
theorem generated_lines_indented (config : Config) (target source : Declaration) (document : String)
    (offset : Nat) (hvalid : config.isValid = true) (hnull : '\n' ∉ config.nullLiteral.toList)
    (hname : '\n' ∉ target.typeName.name.toList)
    (hsetters : ∀ m ∈ target.methods, '\n' ∉ m.name.toList)
    (hfields : ∀ f ∈ source.fields, '\n' ∉ f.name.toList)
    (hoffset : IsBoundary document.toList offset) :
    ∃ i indent first rest,
      Insertion.insert document offset (generateFor config target source).text
          (some config.indentUnit) = .ok i
      ∧ IndentAt document.toList offset indent
      ∧ splitLines (slice i.text.toList i.start i.stop) = first :: rest
      ∧ rest.length + 1
          = target.setters.length + Snippet.linesAround (generateFor config target source).mode
      ∧ ((generateFor config target source).mode = .imperativeAssignment →
          ∀ line ∈ rest, ∃ word, (word = config.localVariable ∨ word = "return")
            ∧ indent ++ word.toList <+: line ∧ IsIndentOf indent line)
      ∧ ((generateFor config target source).mode = .chainedBuilder →
          ∀ line ∈ rest, indent ++ config.indentUnit.toList ++ ['.'] <+: line
            ∧ IsIndentOf (indent ++ config.indentUnit.toList) line) := by
  obtain ⟨i, hi⟩ := exists_insert_iff.mpr hoffset
  obtain ⟨indent, hat, hreindents⟩ := reindents_of_insert hi
  obtain ⟨first, rest, hinserted, hcount, hlead⟩ := Snippet.lines_of_reindents hvalid
    (Snippet.unbroken_matched hvalid hnull hname hsetters hfields) hat.blank hreindents
  rw [← (forall₂_takes target source).length_eq] at hcount
  refine ⟨i, indent, first, rest, hi, hat, hinserted, hcount, ?imperative, ?chained⟩
  case imperative =>
    intro (hmode : Mode.select target config.fluentMarkers = _) line hline
    obtain ⟨word, hword, hstart, hmargin⟩ := hlead line hline
    rw [hmode] at hword hstart hmargin
    refine ⟨word, ?_, hstart, hmargin⟩
    cases hword with
    | receiver => exact .inl rfl
    | result => exact .inr rfl
  case chained =>
    intro (hmode : Mode.select target config.fluentMarkers = _) line hline
    obtain ⟨word, hword, hstart, hmargin⟩ := hlead line hline
    rw [hmode] at hword hstart hmargin
    cases hword with
    | call => exact ⟨hstart, hmargin⟩

/-- A class whose two setters can be chained. -/
def fluentTarget : Declaration :=
  ((Declaration.ofClass "T").withMethod ⟨"setA", 1, .type ⟨"T"⟩⟩).withMethod
    ⟨"setB", 1, .type ⟨"T"⟩⟩

/-- Behind a tab, the chained calls of a snippet get the tab and two blanks. -/
theorem lines_of_fluent_snippet :
    Config.isValid { indentUnit := "  " } = true
    ∧ IsBoundary "(\n\tx\n)".toList 3
    ∧ (generateFor { indentUnit := "  " } fluentTarget
        ((Declaration.ofClass "S").withField "a")).mode = .chainedBuilder
    ∧ ∃ i indent first rest,
        Insertion.insert "(\n\tx\n)" 3 (generateFor { indentUnit := "  " } fluentTarget
          ((Declaration.ofClass "S").withField "a")).text (some "  ") = .ok i
        ∧ i.text = "(\n\treturn new T()\n\t  .setA(a)\n\t  .setB(null);x\n)"
        ∧ splitLines (slice i.text.toList i.start i.stop) = first :: rest
        ∧ rest.length = 2
        ∧ ∀ line ∈ rest, indent ++ "  ".toList ++ ['.'] <+: line
            ∧ IsIndentOf (indent ++ "  ".toList) line := by
  have hvalid : Config.isValid { indentUnit := "  " } = true := by decide +kernel
  have hoffset : IsBoundary "(\n\tx\n)".toList 3 :=
    ⟨"(\n\t".toList, "x\n)".toList, by decide, by decide⟩
  have hmode : (generateFor { indentUnit := "  " } fluentTarget
      ((Declaration.ofClass "S").withField "a")).mode = .chainedBuilder := by
    decide +kernel
  have htext : (Insertion.insert "(\n\tx\n)" 3 (generateFor { indentUnit := "  " } fluentTarget
      ((Declaration.ofClass "S").withField "a")).text (some "  ")).toOption.map (·.text)
        = some "(\n\treturn new T()\n\t  .setA(a)\n\t  .setB(null);x\n)" := by
    decide +kernel
  obtain ⟨i, indent, first, rest, hi, -, hinserted, hcount, -, hchained⟩ :=
    generated_lines_indented { indentUnit := "  " } fluentTarget
      ((Declaration.ofClass "S").withField "a") "(\n\tx\n)" 3 hvalid (by decide) (by decide)
      (by decide) (by decide) hoffset
  rw [hi] at htext
  exact ⟨hvalid, hoffset, hmode, i, indent, first, rest, hi, Option.some.inj htext, hinserted,
    Nat.succ.inj hcount, hchained hmode⟩

end BeanMapper
