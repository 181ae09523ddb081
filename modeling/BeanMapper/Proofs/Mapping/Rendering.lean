import BeanMapper.Proofs.Mapping.Generation
import BeanMapper.Proofs.Text.Lines

/-! # Rendering — nothing is lost in the text of a snippet

    A snippet is written as a list of lines.  Its text can be cut into these
    lines again if no part of a line holds a newline, and a call can be read
    off its line if no setter holds a parenthesis; what is passed to the setter
    may hold anything else.

    * `splitLines_joinLines` cuts a text into the lines it was joined from;
    * `linesOf` are the lines of a snippet in either mode, `callLine` the one
      of a call, and `getElem?_linesOf` says where that one stands;
    * `callLine_inj` reads the setter and its argument off the line;
    * `rendering_loses_nothing`: **a snippet has one line for each call between
      its other lines, and its text tells all calls.** -/

namespace BeanMapper

namespace Text

variable {line : List Char} {x : Char}

/-- A text is cut at the first place where a character stands. -/
theorem splitFirst?_append (h : x ∉ line) (cs : List Char) :
    splitFirst? x (line ++ x :: cs) = some (line, cs) := by
  induction line with
  | nil => exact if_pos rfl
  | cons c line ih =>
      rw [List.mem_cons, not_or] at h
      obtain ⟨hc, hline⟩ := h
      rw [List.cons_append, splitFirst?, if_neg (Ne.symm hc), ih hline, Option.map_some]

end Text

namespace Snippet

variable {mode : Mode} {target mark first : String} {rest : List String} {options : RenderOptions}
  {ms : List SetterMatch} {m m' : SetterMatch} {isLast : Bool}

/-! ## Lines -/

/-- The text of joined lines. -/
theorem toList_joinLines (first : String) (rest : List String) :
    (joinLines (first :: rest)).toList
      = Text.joinWith '\n' (first.toList :: rest.map (·.toList)) := by
  rw [joinLines_cons, String.toList_append, String.toList_join, Text.joinWith, List.flatMap_map,
    List.flatMap_map]
  simp only [String.toList_append]
  rfl

/-- Joined lines are cut into the same lines. -/
theorem splitLines_joinLines (h : ∀ line ∈ first :: rest, '\n' ∉ line.toList) :
    Text.splitLines (joinLines (first :: rest)).toList = (first :: rest).map (·.toList) := by
  rw [toList_joinLines, List.map_cons]
  exact Text.splitLines_joinWith (by simpa using h)

/-- Lines with a mark behind the last one. -/
def closed (mark : String) : String → List String → List String
  | first, [] => [first ++ mark]
  | first, second :: rest => first :: closed mark second rest

theorem joinLines_closed :
    joinLines (closed mark first rest) = joinLines (first :: rest) ++ mark := by
  induction rest generalizing first with
  | nil =>
      rw [closed, joinLines, joinLines, String.intercalate_singleton,
        String.intercalate_singleton]
  | cons second rest ih =>
      have hsecond := @ih second
      obtain ⟨line, lines, hclosed⟩ : ∃ line lines, closed mark second rest = line :: lines := by
        cases rest with
        | nil => exact ⟨_, _, rfl⟩
        | cons third rest => exact ⟨_, _, rfl⟩
      rw [joinLines, joinLines] at hsecond ⊢
      rw [closed, hclosed, String.intercalate_cons_cons, ← hclosed, hsecond,
        String.intercalate_cons_cons, ← String.append_assoc]

theorem length_closed : (closed mark first rest).length = rest.length + 1 := by
  induction rest generalizing first with
  | nil => rfl
  | cons second rest ih => rw [closed, List.length_cons, ih, List.length_cons]

/-- Only the last line has the mark. -/
theorem getElem?_closed (i : Nat) :
    (closed mark first rest)[i]?
      = (first :: rest)[i]?.map fun line => if i = rest.length then line ++ mark else line := by
  induction rest generalizing first i with
  | nil => cases i <;> simp [closed]
  | cons second rest ih =>
      cases i with
      | zero => simp [closed]
      | succ i =>
          rw [closed, List.getElem?_cons_succ, ih, List.getElem?_cons_succ, List.length_cons]
          simp only [Nat.add_right_cancel_iff]

/-- The lines of a snippet. -/
def linesOf (target : String) (ms : List SetterMatch) (options : RenderOptions) :
    Mode → List String
  | .chainedBuilder => closed ";" ("return new " ++ target ++ "()") (ms.map (call options ""))
  | .imperativeAssignment =>
      (declaredAs target options.declarationStyle ++ " " ++ options.localVariable ++ " = new "
          ++ target ++ "();")
        :: (ms.map (fun m => call options options.localVariable m ++ ";")
          ++ ["return " ++ options.localVariable ++ ";"])

/-- **Both renderers join the lines of the snippet.** -/
theorem render_eq_joinLines :
    render mode target ms options = joinLines (linesOf target ms options mode) := by
  cases mode with
  | chainedBuilder => exact joinLines_closed.symm
  | imperativeAssignment => rfl

/-- The number of lines of a snippet that call no setter. -/
def linesAround : Mode → Nat
  | .chainedBuilder => 1
  | .imperativeAssignment => 2

theorem length_linesOf :
    (linesOf target ms options mode).length = ms.length + linesAround mode := by
  cases mode with
  | chainedBuilder => rw [linesOf, length_closed, List.length_map, linesAround]
  | imperativeAssignment => simp [linesOf, linesAround]

/-! ## Calls -/

/-- What stands before the setter on its line. -/
def opening (options : RenderOptions) : Mode → String
  | .chainedBuilder => "."
  | .imperativeAssignment => options.localVariable ++ "."

/-- What stands behind the argument on its line; the chained expression ends on its last one. -/
def closing (isLast : Bool) : Mode → String
  | .chainedBuilder => if isLast then ");" else ")"
  | .imperativeAssignment => ");"

/-- The line that calls a setter. -/
def callLine (options : RenderOptions) (isLast : Bool) (mode : Mode) (m : SetterMatch) : String :=
  opening options mode ++ m.setter ++ "(" ++ m.field.getD options.nullLiteral ++ closing isLast mode

/-- **The line behind the first one and the lines of the calls before is that of the call.** -/
theorem getElem?_linesOf {i : Nat} (h : ms[i]? = some m) :
    (linesOf target ms options mode)[i + 1]?
      = some (callLine options (i + 1 == ms.length) mode m) := by
  cases mode with
  | chainedBuilder =>
      rw [linesOf, getElem?_closed, List.getElem?_cons_succ, List.getElem?_map, h, List.length_map]
      simp only [Option.map_some, callLine, opening, closing, call, argument, beq_iff_eq]
      by_cases hlast : i + 1 = ms.length
      · have hend : ")" ++ ";" = ");" := rfl
        rw [if_pos hlast, if_pos hlast, ← hend, String.empty_append]
        simp only [String.append_assoc]
      · rw [if_neg hlast, if_neg hlast, String.empty_append]
  | imperativeAssignment =>
      have hlt : i < ms.length := (List.getElem?_eq_some_iff.mp h).1
      have hend : ")" ++ ";" = ");" := rfl
      rw [linesOf, List.getElem?_cons_succ, List.getElem?_append_left (by rwa [List.length_map]),
        List.getElem?_map, h, Option.map_some, callLine, opening, closing, call, argument, ← hend]
      simp only [String.append_assoc]

/-- **The setter and its argument can be read off a line**, if no setter holds a parenthesis. -/
theorem callLine_inj (hm : '(' ∉ m.setter.toList) (hm' : '(' ∉ m'.setter.toList)
    (h : callLine options isLast mode m = callLine options isLast mode m') :
    m.setter = m'.setter ∧ m.field.getD options.nullLiteral = m'.field.getD options.nullLiteral := by
  have hline (x : SetterMatch) : (callLine options isLast mode x).toList
      = (opening options mode).toList ++ (x.setter.toList
        ++ '(' :: ((x.field.getD options.nullLiteral).toList ++ (closing isLast mode).toList)) := by
    rw [callLine]
    simp [String.toList_append]
  have hchars := congrArg String.toList h
  rw [hline, hline] at hchars
  -- the first parenthesis behind what stands before the setter is the one of the call
  have hcut := congrArg (Text.splitFirst? '(') (List.append_cancel_left hchars)
  rw [Text.splitFirst?_append hm, Text.splitFirst?_append hm'] at hcut
  obtain ⟨hsetter, hargument⟩ := Prod.mk.inj (Option.some.inj hcut)
  exact ⟨String.toList_inj.mp hsetter, String.toList_inj.mp (List.append_cancel_right hargument)⟩

/-! ## The text of a snippet -/

/-- No part of a snippet holds a newline. -/
structure Unbroken (target : String) (options : RenderOptions) (ms : List SetterMatch) : Prop where
  /-- The name of the target holds none. -/
  target_line : '\n' ∉ target.toList
  /-- The name of the local variable holds none. -/
  local_line : '\n' ∉ options.localVariable.toList
  /-- What stands for a missing field holds none. -/
  null_line : '\n' ∉ options.nullLiteral.toList
  /-- No setter holds one. -/
  setter_line : ∀ m ∈ ms, '\n' ∉ m.setter.toList
  /-- No field holds one. -/
  field_line : ∀ m ∈ ms, ∀ name, m.field = some name → '\n' ∉ name.toList

theorem newline_notMem_of_mem_closed (hmark : '\n' ∉ mark.toList)
    (h : ∀ line ∈ first :: rest, '\n' ∉ line.toList) :
    ∀ line ∈ closed mark first rest, '\n' ∉ line.toList := by
  intro line hline
  obtain ⟨i, hi⟩ := List.getElem?_of_mem hline
  rw [getElem?_closed, Option.map_eq_some_iff] at hi
  obtain ⟨plain, hplain, rfl⟩ := hi
  have hnone := h plain (List.mem_of_getElem? hplain)
  split
  · simp [hnone, hmark]
  · exact hnone

namespace Unbroken

theorem argument_line (h : Unbroken target options ms) (hm : m ∈ ms) :
    '\n' ∉ (argument options m).toList := by
  rw [argument]
  cases hfield : m.field with
  | none => exact h.null_line
  | some name => exact h.field_line m hm name hfield

theorem call_line (h : Unbroken target options ms) (hm : m ∈ ms) {receiver : String}
    (hreceiver : '\n' ∉ receiver.toList) : '\n' ∉ (call options receiver m).toList := by
  simp [call, hreceiver, h.setter_line m hm, h.argument_line hm]

/-- **No line of the snippet holds a newline.** -/
theorem linesOf (h : Unbroken target options ms) :
    ∀ line ∈ Snippet.linesOf target ms options mode, '\n' ∉ line.toList := by
  cases mode with
  | chainedBuilder =>
      refine newline_notMem_of_mem_closed (by decide) (List.forall_mem_cons.mpr ⟨?_, ?_⟩)
      · simp [h.target_line]
      · intro line hline
        obtain ⟨m, hm, rfl⟩ := List.mem_map.mp hline
        exact h.call_line hm (by decide)
  | imperativeAssignment =>
      have hdeclared : '\n' ∉ (declaredAs target options.declarationStyle).toList := by
        cases options.declarationStyle with
        | var => exact show '\n' ∉ "var".toList by decide
        | explicit => exact h.target_line
      refine List.forall_mem_cons.mpr ⟨?_, List.forall_mem_append.mpr ⟨?_, ?_⟩⟩
      · simp [hdeclared, h.local_line, h.target_line]
      · intro line hline
        obtain ⟨m, hm, rfl⟩ := List.mem_map.mp hline
        simp [h.call_line hm h.local_line]
      · intro line hline
        obtain rfl := List.mem_singleton.mp hline
        simp [h.local_line]

/-- The text of a snippet is cut into its lines. -/
theorem splitLines_render (h : Unbroken target options ms) :
    Text.splitLines (render mode target ms options).toList
      = (Snippet.linesOf target ms options mode).map (·.toList) := by
  have hlines : ∀ line ∈ Snippet.linesOf target ms options mode, '\n' ∉ line.toList := h.linesOf
  obtain ⟨first, rest, hcons⟩ :
      ∃ first rest, Snippet.linesOf target ms options mode = first :: rest := by
    refine List.exists_cons_of_length_pos ?_
    rw [length_linesOf]
    cases mode <;> simp [linesAround]
  rw [render_eq_joinLines, hcons]
  rw [hcons] at hlines
  exact splitLines_joinLines hlines

end Unbroken

/-- No part of a snippet holds a newline, and no setter an opening parenthesis. -/
structure OnLines (target : String) (options : RenderOptions) (ms : List SetterMatch) : Prop
    extends Unbroken target options ms where
  /-- No setter holds an opening parenthesis. -/
  setter_plain : ∀ m ∈ ms, '(' ∉ m.setter.toList

/-- **Rendering loses nothing.**  If no part of a snippet holds a newline and no setter a parenthesis,
    the text has one line for each call, behind the first line and in the order of the calls, and in
    the imperative mode one more at its end.  Two lists of calls with one text have the same length
    and, position by position, the same setter and the same argument. -/
theorem rendering_loses_nothing (mode : Mode) (target : String) (options : RenderOptions) :
    (∀ ms, OnLines target options ms →
        (Text.splitLines (render mode target ms options).toList).length
          = ms.length + linesAround mode
        ∧ ∀ i m, ms[i]? = some m →
            (Text.splitLines (render mode target ms options).toList)[i + 1]?
              = some (callLine options (i + 1 == ms.length) mode m).toList)
    ∧ ∀ ms ms', OnLines target options ms → OnLines target options ms' →
        render mode target ms options = render mode target ms' options →
        List.Forall₂
          (fun m m' => m.setter = m'.setter
            ∧ m.field.getD options.nullLiteral = m'.field.getD options.nullLiteral)
          ms ms' := by
  have hlength {ms : List SetterMatch} (h : OnLines target options ms) :
      (Text.splitLines (render mode target ms options).toList).length
        = ms.length + linesAround mode := by
    rw [h.splitLines_render, List.length_map, length_linesOf]
  have hline {ms : List SetterMatch} (h : OnLines target options ms) {i : Nat} {m : SetterMatch}
      (hm : ms[i]? = some m) :
      (Text.splitLines (render mode target ms options).toList)[i + 1]?
        = some (callLine options (i + 1 == ms.length) mode m).toList := by
    rw [h.splitLines_render, List.getElem?_map, getElem?_linesOf hm, Option.map_some]
  refine ⟨fun ms h => ⟨hlength h, fun i m hm => hline h hm⟩, fun ms ms' h h' htext => ?_⟩
  have hsame : ms.length = ms'.length := by
    have := hlength h
    rw [htext, hlength h'] at this
    omega
  refine List.forall₂_of_length_eq_of_get hsame fun i hi hi' => ?_
  have hm := hline h (List.getElem?_eq_getElem hi)
  rw [htext, hline h' (List.getElem?_eq_getElem hi'), hsame, Option.some.injEq,
    String.toList_inj] at hm
  exact callLine_inj (h.setter_plain _ (List.getElem_mem hi))
    (h'.setter_plain _ (List.getElem_mem hi')) hm.symm

/-- Options by which a setter without a field is given what looks like the end of a line. -/
def oddOptions : RenderOptions := { nullLiteral := "f(.x);" }

/-- Two calls; the first setter is given no field. -/
def oddCalls : List SetterMatch := [⟨"setId", none⟩, ⟨"set", some "x"⟩]

/-- Two calls; the first setter is given a field that is spelled like the missing ones. -/
def oddCallsSpelled : List SetterMatch := [⟨"setId", some "f(.x);"⟩, ⟨"set", some "x"⟩]

/-- Both lists have the same text of three lines, and the same setters and arguments. -/
theorem calls_of_odd_snippet :
    OnLines "Dto" oddOptions oddCalls ∧ OnLines "Dto" oddOptions oddCallsSpelled
    ∧ (Text.splitLines (render .chainedBuilder "Dto" oddCalls oddOptions).toList).length = 3
    ∧ (Text.splitLines (render .chainedBuilder "Dto" oddCalls oddOptions).toList)[1]?
        = some ".setId(f(.x);)".toList
    ∧ render .chainedBuilder "Dto" oddCalls oddOptions
        = render .chainedBuilder "Dto" oddCallsSpelled oddOptions
    ∧ List.Forall₂
        (fun m m' => m.setter = m'.setter
          ∧ m.field.getD oddOptions.nullLiteral = m'.field.getD oddOptions.nullLiteral)
        oddCalls oddCallsSpelled := by
  have hcalls : OnLines "Dto" oddOptions oddCalls :=
    ⟨⟨by decide, by decide, by decide, by decide, by simp [oddCalls]⟩, by decide⟩
  have hspelled : OnLines "Dto" oddOptions oddCallsSpelled :=
    ⟨⟨by decide, by decide, by decide, by decide, by simp [oddCallsSpelled]⟩, by decide⟩
  have htext : render .chainedBuilder "Dto" oddCalls oddOptions
      = render .chainedBuilder "Dto" oddCallsSpelled oddOptions := by
    decide +kernel
  obtain ⟨hread, htold⟩ := rendering_loses_nothing .chainedBuilder "Dto" oddOptions
  obtain ⟨hlines, hcall⟩ := hread oddCalls hcalls
  have hsame := htold oddCalls oddCallsSpelled hcalls hspelled htext
  exact ⟨hcalls, hspelled, hlines, hcall 0 ⟨"setId", none⟩ rfl, htext, hsame⟩

end Snippet

end BeanMapper
