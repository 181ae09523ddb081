import BeanMapper.FileSystem.Path
import BeanMapper.Proofs.Text.Parts
import Mathlib.Data.List.TakeWhile

/-!
# Ancestors — the way up that the spelling of a path names

    The parent of a path is the path without its last step: the other steps
    stay as they are (`steps_parent?`), it starts where the path starts
    (`isAbsolute_parent?`), and it is shorter (`length_parent?_lt`).  So the
    way up from any path ends (`parent_induction`), the ancestors of a path
    are the path and the ancestors of its parent (`ancestors_of_parent?`), and
    they are never cut off on the way (`isAscent_ancestors`).  The heart is
    `Shortened`: what is left of a list of segments when its last step is
    taken off with every meaningless segment behind it. -/

namespace BeanMapper.Path

open Text

/-! ## Segments without the last step -/

variable {all before below left junk : List (List Char)} {segment : List Char}

/-- The last step of a list of segments is taken off with everything behind it. -/
structure Shortened (all before : List (List Char)) : Prop where
  /-- Something that is not empty stands behind what is left. -/
  cut : ∃ behind part, before ++ behind = all ∧ part ∈ behind ∧ part ≠ []
  /-- The other steps are left. -/
  steps : before.filter isStep = (all.filter isStep).dropLast

theorem ne_nil_of_isStep (h : isStep segment = true) : segment ≠ [] := by
  rintro rfl
  exact nomatch h

theorem filter_dropWhile (l : List (List Char)) :
    (l.dropWhile (! isStep ·)).filter isStep = l.filter isStep :=
  filter_dropWhile_of (fun s hs => by simpa using hs) l

/-- What is passed over at the end of reversed segments holds no step, and what is found there is
    one, or a dot with nothing before it. -/
theorem exists_of_splitLast? (h : splitLast? all = some (segment, before)) :
    ∃ junk, all = junk ++ segment :: before ∧ junk.filter isStep = []
      ∧ (isStep segment = true ∨ segment = ['.'] ∧ before = []) := by
  induction all with
  | nil => exact nomatch h
  | cons s all ih =>
      rw [splitLast?] at h
      split at h
      · rename_i hfound
        cases h
        refine ⟨[], rfl, rfl, ?_⟩
        simpa using hfound
      · rename_i hpassed
        obtain ⟨junk, rfl, hjunk, hsegment⟩ := ih h
        have hs : isStep s ≠ true := fun hs => hpassed (by rw [hs]; rfl)
        exact ⟨s :: junk, rfl, by rw [List.filter_cons_of_neg hs, hjunk], hsegment⟩

/-- Segments that cannot be split hold no step. -/
theorem filter_of_splitLast?_eq_none (h : splitLast? all = none) : all.filter isStep = [] := by
  induction all with
  | nil => rfl
  | cons s all ih =>
      rw [splitLast?] at h
      split at h
      · exact nomatch h
      · rename_i hpassed
        rw [List.filter_cons_of_neg fun hs => hpassed (by rw [hs]; rfl), ih h]

/-- Tidying takes something off the end of a path, and no step. -/
theorem tidy_spec (l : List (List Char)) :
    tidy l <:+ l ∧ (tidy l).filter isStep = l.filter isStep := by
  rw [tidy]
  cases hlast : splitLast? l with
  | none => exact ⟨List.nil_suffix, (filter_of_splitLast?_eq_none hlast).symm⟩
  | some p =>
      obtain ⟨junk, rfl, hjunk, -⟩ := exists_of_splitLast? hlast
      refine ⟨List.suffix_append _ _, ?_⟩
      rw [List.filter_append, hjunk, List.nil_append]

/-- Reversed segments are shortened at their beginning. -/
theorem Shortened.of_reverse (hall : all.reverse = junk ++ segment :: below)
    (hjunk : junk.filter isStep = []) (hsegment : segment ≠ [])
    (hstep : isStep segment = true ∨ below.filter isStep = [])
    (hleft : left <:+ below) (hsteps : left.filter isStep = below.filter isStep) :
    Shortened all left.reverse := by
  have htext : all = below.reverse ++ segment :: junk.reverse := by
    rw [← all.reverse_reverse, hall]
    simp
  obtain ⟨passed, rfl⟩ := hleft
  refine ⟨⟨passed.reverse ++ segment :: junk.reverse, segment, ?_, by simp, hsegment⟩, ?_⟩
  · rw [htext, List.reverse_append, List.append_assoc]
  · rw [htext, List.filter_append, List.filter_cons, List.filter_reverse, List.filter_reverse,
      List.filter_reverse, hjunk, hsteps, List.reverse_nil]
    rcases hstep with hstep | hnone
    · rw [if_pos hstep, List.dropLast_concat]
    · rw [hnone]
      split <;> rfl

section Texts

variable {rest : List Char}

/-- What is left of the segments of a text is a beginning of it. -/
theorem Shortened.isPrefix (h : Shortened (segments rest) before) :
    joinWith '/' before <+: rest := by
  obtain ⟨behind, part, hcut, -, -⟩ := h.cut
  have htext := joinWith_isPrefix '/' before behind
  rwa [hcut, segments, joinWith_splitOn] at htext

theorem Shortened.length_lt (h : Shortened (segments rest) before) :
    (joinWith '/' before).length < rest.length := by
  obtain ⟨behind, part, hcut, hmem, hpart⟩ := h.cut
  have hless : (joinWith '/' before).length < (joinWith '/' (before ++ behind)).length :=
    length_joinWith_lt hmem hpart
  rwa [hcut, segments, joinWith_splitOn] at hless

/-- The text that is left has the same steps but the last one. -/
theorem Shortened.filter_segments (h : Shortened (segments rest) before) :
    (segments (joinWith '/' before)).filter isStep
      = ((segments rest).filter isStep).dropLast := by
  rw [← h.steps]
  by_cases hbefore : before = []
  · rw [hbefore]
    rfl
  · obtain ⟨behind, -, hcut, -, -⟩ := h.cut
    rw [segments, splitOn_joinWith hbefore fun part hpart =>
      notMem_of_mem_splitOn (hcut ▸ List.mem_append_left behind hpart)]

end Texts

/-! ## Parents -/

section Chars

variable {path parent rest : List Char}

theorem exists_of_isAbsolute (h : isAbsolute path = true) : ∃ rest, path = '/' :: rest := by
  obtain ⟨rest, hrest⟩ := List.head?_eq_some_iff.mp (beq_iff_eq.mp h)
  exact ⟨rest, hrest⟩

/-- The parent of a relative path is that path shortened. -/
theorem exists_shortened_of_relative (hrelative : isAbsolute path = false)
    (h : parentChars? path = some parent) :
    ∃ before, Shortened (segments path) before ∧ parent = joinWith '/' before := by
  rw [parentChars?, if_neg (by rw [hrelative]; exact Bool.false_ne_true)] at h
  obtain ⟨⟨segment, below⟩, hlast, rfl⟩ := Option.map_eq_some_iff.mp h
  obtain ⟨junk, hall, hjunk, hsegment⟩ := exists_of_splitLast? hlast
  obtain ⟨hsuffix, hsteps⟩ := tidy_spec below
  refine ⟨_, Shortened.of_reverse hall hjunk ?_ ?_ hsuffix hsteps, rfl⟩
  · rcases hsegment with hstep | ⟨rfl, -⟩
    · exact ne_nil_of_isStep hstep
    · exact List.cons_ne_nil '.' []
  · exact hsegment.imp_right fun hdot => by rw [hdot.2]; rfl

/-- The parent of an absolute path is the path behind the slash, shortened. -/
theorem exists_shortened_of_absolute (h : parentChars? ('/' :: rest) = some parent) :
    ∃ before, Shortened (segments rest) before ∧ parent = '/' :: joinWith '/' before := by
  rw [parentChars?, if_pos (show isAbsolute ('/' :: rest) = true from rfl)] at h
  cases hfound : (segments rest).reverse.dropWhile (! isStep ·) with
  | nil =>
      rw [List.drop_one, List.tail_cons, hfound] at h
      exact nomatch h
  | cons segment below =>
      rw [List.drop_one, List.tail_cons, hfound] at h
      cases h
      have hall := List.takeWhile_append_dropWhile (p := (! isStep ·)) (l := (segments rest).reverse)
      rw [hfound] at hall
      have hstep : isStep segment = true := by
        have hhead := List.head?_dropWhile_not (! isStep ·) (segments rest).reverse
        rw [hfound, List.head?_cons] at hhead
        simpa using hhead
      have hjunk : ((segments rest).reverse.takeWhile (! isStep ·)).filter isStep = [] := by
        refine List.filter_eq_nil_iff.mpr fun s hs => ?_
        simpa using (List.mem_takeWhile_imp hs)
      exact ⟨_, Shortened.of_reverse hall.symm hjunk (ne_nil_of_isStep hstep) (.inl hstep)
        (List.dropWhile_suffix _) (filter_dropWhile below), rfl⟩

theorem filter_segments_slash (rest : List Char) :
    (segments ('/' :: rest)).filter isStep = (segments rest).filter isStep := by
  rw [segments, splitOn, if_pos rfl, List.filter_cons_of_neg (by decide), segments]

/-- A parent has all steps but the last, starts where its path does, and is shorter. -/
theorem parentChars?_spec (h : parentChars? path = some parent) :
    (segments parent).filter isStep = ((segments path).filter isStep).dropLast
      ∧ isAbsolute parent = isAbsolute path ∧ parent.length < path.length := by
  cases habsolute : isAbsolute path with
  | false =>
      obtain ⟨before, hshort, rfl⟩ := exists_shortened_of_relative habsolute h
      refine ⟨hshort.filter_segments, ?_, hshort.length_lt⟩
      -- what is left is a beginning of the path, so it starts with no slash either
      obtain ⟨behind, hpath⟩ := hshort.isPrefix
      cases hleft : joinWith '/' before with
      | nil => rfl
      | cons c cs =>
          rw [hleft] at hpath
          rw [← habsolute, ← hpath]
          rfl
  | true =>
      obtain ⟨rest, rfl⟩ := exists_of_isAbsolute habsolute
      obtain ⟨before, hshort, rfl⟩ := exists_shortened_of_absolute h
      refine ⟨?_, rfl, Nat.succ_lt_succ hshort.length_lt⟩
      rw [filter_segments_slash, filter_segments_slash, hshort.filter_segments]

theorem filter_segments_of_parentChars?_eq_none (h : parentChars? path = none) :
    (segments path).filter isStep = [] := by
  rw [parentChars?] at h
  split at h
  · rename_i habsolute
    obtain ⟨rest, rfl⟩ := exists_of_isAbsolute habsolute
    split at h
    · rename_i hnone
      rw [filter_segments_slash, ← List.reverse_eq_nil_iff, ← List.filter_reverse,
        ← filter_dropWhile]
      rw [List.drop_one, List.tail_cons] at hnone
      rw [hnone]
      rfl
    · exact nomatch h
  · have hnone := filter_of_splitLast?_eq_none (Option.map_eq_none_iff.mp h)
    rwa [List.filter_reverse, List.reverse_eq_nil_iff] at hnone

end Chars

variable {path parent : String}

/-- **The parent of a path has its steps but the last one.** -/
theorem steps_parent? (h : parent? path = some parent) : steps parent = (steps path).dropLast := by
  obtain ⟨cs, hcs, rfl⟩ := Option.map_eq_some_iff.mp h
  rw [steps, steps, String.toList_ofList, (parentChars?_spec hcs).1, List.map_dropLast]

/-- The parent of a path starts where the path starts. -/
theorem isAbsolute_parent? (h : parent? path = some parent) :
    isAbsolute parent.toList = isAbsolute path.toList := by
  obtain ⟨cs, hcs, rfl⟩ := Option.map_eq_some_iff.mp h
  rw [String.toList_ofList, (parentChars?_spec hcs).2.1]

/-- The parent of a path is shorter. -/
theorem length_parent?_lt (h : parent? path = some parent) : parent.length < path.length := by
  obtain ⟨cs, hcs, rfl⟩ := Option.map_eq_some_iff.mp h
  rw [String.length_ofList, ← String.length_toList]
  exact (parentChars?_spec hcs).2.2

/-- A path without a parent has no steps. -/
theorem steps_of_parent?_eq_none (h : parent? path = none) : steps path = [] := by
  rw [steps, filter_segments_of_parentChars?_eq_none (Option.map_eq_none_iff.mp h), List.map_nil]

/-! ## The way up -/

/-- **The way up from a path ends**, so what holds at its end and is handed down from the parent of
    a path to the path holds of every path. -/
theorem parent_induction {motive : String → Prop}
    (top : ∀ path, parent? path = none → motive path)
    (below : ∀ path parent, parent? path = some parent → motive parent → motive path)
    (path : String) : motive path := by
  induction hlength : path.length using Nat.strongRecOn generalizing path with
  | _ n ih =>
      cases hparent : parent? path with
      | none => exact top path hparent
      | some parent =>
          exact below path parent hparent
            (ih parent.length (hlength ▸ length_parent?_lt hparent) parent rfl)

/-- A bound that allows for all characters of a path does not cut its ancestors off. -/
theorem ancestorsUpTo_eq {fuel : Nat} (h : path.length ≤ fuel) :
    ancestorsUpTo fuel path = ancestors path := by
  induction path using parent_induction generalizing fuel with
  | top path hparent =>
      rw [ancestors]
      cases fuel <;> cases path.length <;> simp [ancestorsUpTo, hparent]
  | below path parent hparent ih =>
      have hless := length_parent?_lt hparent
      obtain ⟨m, rfl⟩ := Nat.exists_eq_add_one_of_ne_zero (show fuel ≠ 0 by omega)
      obtain ⟨n, hn⟩ := Nat.exists_eq_add_one_of_ne_zero (show path.length ≠ 0 by omega)
      simp only [ancestors, hn, ancestorsUpTo, hparent]
      rw [ih (by omega), ih (by omega)]

theorem ancestors_of_parent?_eq_none (h : parent? path = none) : ancestors path = [path] := by
  rw [← ancestorsUpTo_eq (Nat.le_succ path.length), ancestorsUpTo, h]

/-- **The ancestors of a path** are the path and the ancestors of its parent. -/
theorem ancestors_of_parent? (h : parent? path = some parent) :
    ancestors path = path :: ancestors parent := by
  rw [← ancestorsUpTo_eq (Nat.le_succ path.length), ancestorsUpTo, h]
  dsimp only
  rw [ancestorsUpTo_eq (Nat.le_of_lt (length_parent?_lt h))]

/-- Paths lead up from the first one, each to its parent, until there is none. -/
structure IsAscent (start : String) (paths : List String) : Prop where
  /-- The first path is where the way starts. -/
  starts : paths.head? = some start
  /-- Behind a path comes its parent. -/
  climbs : paths.IsChain fun path parent => parent? path = some parent
  /-- The last path has no parent. -/
  ends : ∀ last, paths.getLast? = some last → parent? last = none

/-- **The ancestors of a path are the whole way up.** -/
theorem isAscent_ancestors (path : String) : IsAscent path (ancestors path) := by
  induction path using parent_induction with
  | top path hparent =>
      rw [ancestors_of_parent?_eq_none hparent]
      refine ⟨rfl, .singleton path, fun last hlast => ?_⟩
      cases hlast
      exact hparent
  | below path parent hparent ih =>
      obtain ⟨paths, hpaths⟩ := List.head?_eq_some_iff.mp ih.starts
      rw [ancestors_of_parent? hparent, hpaths]
      rw [hpaths] at ih
      refine ⟨rfl, List.isChain_cons_cons.mpr ⟨hparent, ih.climbs⟩, fun last hlast => ?_⟩
      exact ih.ends last (by rwa [List.getLast?_cons_cons] at hlast)

end BeanMapper.Path
