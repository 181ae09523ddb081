import BeanMapper.Proofs.FileSystem.Ancestors
import BeanMapper.Proofs.FileSystem.Climbing
import BeanMapper.Proofs.FileSystem.Writing

/-!
# Directories — searching upwards by the spelling of a path

    Above a directory, the spelling of its path names directories only
    (`LeadsToDirectory.exists_parent`), and the path of an entry of such a
    directory leads to the place of the entry
    (`LeadsToDirectory.leadsTo_join`).  So a search through the ancestors of a
    path looks into the directories that the steps of the path pass
    (`find?_ancestors`), even where the spelling names one of them twice. -/

namespace BeanMapper.FileSystem

variable {fs : FileSystem} {path parent directory name : String} {names : List String}
  {d e place : Place} {content : Content}

/-! ## Paths of directories -/

/-- The steps of a path lead to a directory. -/
def LeadsToDirectory (fs : FileSystem) (path : String) (d : Place) : Prop :=
  (Path.steps path).foldl fs.step (.ok (.directory (fs.startOf path))) = .ok (.directory d)

/-- Steps that end at a directory end where their names lead. -/
theorem eq_lead_of_steps (h : names.foldl fs.step (.ok (.directory d)) = .ok (.directory e)) :
    e = lead d names := by
  induction names generalizing d with
  | nil =>
      cases h
      rfl
  | cons name names ih =>
      rw [List.foldl_cons] at h
      obtain ⟨d', hd'⟩ := exists_directory_of_steps h
      rw [hd'] at h
      have hstep : d' = lead d [name] := by
        rw [lead_singleton]
        by_cases hname : name = ".."
        · rw [step, if_pos hname] at hd'
          cases hd'
          rw [if_pos hname]
        · rw [step, if_neg hname] at hd'
          rw [if_neg hname, (entryAt_eq_directory_iff.mp hd').1]
      rw [ih h, hstep, ← lead_append, List.singleton_append]

/-- A path leads to a directory only where its names lead. -/
theorem LeadsToDirectory.eq_placeOf (h : fs.LeadsToDirectory path d) : d = fs.placeOf path :=
  eq_lead_of_steps h

theorem startOf_parent? (h : Path.parent? path = some parent) :
    fs.startOf parent = fs.startOf path := by
  rw [startOf, startOf, Path.isAbsolute_parent? h]

/-- Above a directory the spelling of its path names directories only. -/
theorem LeadsToDirectory.exists_parent (h : fs.LeadsToDirectory path d)
    (hparent : Path.parent? path = some parent) : ∃ e, fs.LeadsToDirectory parent e := by
  unfold LeadsToDirectory at h ⊢
  rw [Path.steps_parent? hparent, startOf_parent? hparent]
  rcases (Path.steps path).eq_nil_or_concat with hnil | ⟨names, name, hsteps⟩
  · exact ⟨d, by rwa [hnil] at h ⊢⟩
  · rw [hsteps, List.concat_eq_append] at h ⊢
    rw [List.foldl_append] at h
    rw [List.dropLast_concat]
    exact exists_directory_of_step h

/-- The directory of a file is where all steps but the last lead. -/
theorem LeadsTo.dropLast_eq (h : fs.LeadsTo path place) :
    place.dropLast = lead (fs.startOf path) (Path.steps path).dropLast := by
  obtain ⟨-, -, names, name, d, hsteps, -, rfl, hd⟩ := h
  rw [hsteps, List.dropLast_concat, List.dropLast_concat, eq_lead_of_steps hd]

/-! ## The entries of a directory -/

/-- A name that one step leads to from a directory. -/
structure IsEntryName (name : String) : Prop where
  /-- It is a step. -/
  isStep : Path.isStep name.toList = true
  /-- It is only one step. -/
  slash_notMem : '/' ∉ name.toList
  /-- It does not lead upwards. -/
  ne_up : name ≠ ".."

/-- Joining puts the name behind all other segments. -/
theorem exists_segments_join (directory : String) (hslash : '/' ∉ name.toList) :
    ∃ segments, Path.segments (Path.join directory name).toList = segments ++ [name.toList]
      ∧ segments.filter Path.isStep = (Path.segments directory.toList).filter Path.isStep := by
  have hname : Text.splitOn '/' name.toList = [name.toList] := Text.splitOn_of_notMem hslash
  rw [Path.join]
  split
  · rename_i hempty
    rw [String.isEmpty_iff] at hempty
    refine ⟨[], hname, ?_⟩
    rw [hempty]
    rfl
  · split
    · rename_i hlast
      obtain ⟨cs, hcs⟩ := List.getLast?_eq_some_iff.mp hlast
      refine ⟨Path.segments cs, ?_, ?_⟩
      · rw [String.toList_append, hcs, List.append_assoc, List.singleton_append, Path.segments,
          Text.splitOn_append, hname, Path.segments]
      · rw [hcs, Path.segments, Path.segments, Text.splitOn_append, List.filter_append]
        exact (List.append_nil _).symm
    · refine ⟨Path.segments directory.toList, ?_, rfl⟩
      rw [String.toList_append, String.toList_append, List.append_assoc]
      exact (Text.splitOn_append '/' directory.toList name.toList).trans (by rw [hname]; rfl)

/-- Joining adds one step, the name. -/
theorem steps_join (directory : String) (h : IsEntryName name) :
    Path.steps (Path.join directory name) = Path.steps directory ++ [name] := by
  obtain ⟨segments, hjoin, hsteps⟩ := exists_segments_join directory h.slash_notMem
  rw [Path.steps, hjoin, List.filter_append, hsteps, List.filter_cons_of_pos h.isStep,
    List.filter_nil, List.map_append, List.map_singleton, String.ofList_toList, Path.steps]

theorem wantsDirectory_join (directory : String) (h : IsEntryName name) :
    wantsDirectory (Path.join directory name) = false := by
  obtain ⟨segments, hjoin, -⟩ := exists_segments_join directory h.slash_notMem
  simp only [wantsDirectory, hjoin, List.getLast?_concat, h.isStep, Bool.not_true]

theorem isEmpty_join (directory : String) (h : IsEntryName name) :
    (Path.join directory name).isEmpty = false := by
  refine Bool.eq_false_iff.mpr fun hempty => ?_
  have hsteps := steps_join directory h
  rw [String.isEmpty_iff.mp hempty] at hsteps
  exact nomatch (List.append_eq_nil_iff.mp hsteps.symm).2

theorem startOf_join (fs : FileSystem) (directory : String) (h : IsEntryName name) :
    fs.startOf (Path.join directory name) = fs.startOf directory := by
  have habsolute : Path.isAbsolute (Path.join directory name).toList
      = Path.isAbsolute directory.toList := by
    rw [Path.join]
    split
    · rename_i hempty
      rw [String.isEmpty_iff] at hempty
      rw [hempty, Path.isAbsolute, Path.isAbsolute]
      cases hname : name.toList with
      | nil => rfl
      | cons c cs =>
          have hslash := h.slash_notMem
          rw [hname, List.mem_cons, not_or] at hslash
          simpa using Ne.symm hslash.1
    · rename_i hempty
      obtain ⟨c, cs, hdirectory⟩ := List.exists_cons_of_ne_nil
        (fun hnil => hempty (String.isEmpty_iff.mpr (String.toList_eq_nil_iff.mp hnil)))
      split <;> simp [Path.isAbsolute, hdirectory]
  rw [startOf, startOf, habsolute]

/-- **The path of an entry of a directory leads to its place.** -/
theorem LeadsToDirectory.leadsTo_join (h : fs.LeadsToDirectory directory d)
    (hname : IsEntryName name) : fs.LeadsTo (Path.join directory name) (d ++ [name]) := by
  refine ⟨isEmpty_join directory hname, wantsDirectory_join directory hname, _, name, d,
    steps_join directory hname, hname.ne_up, rfl, ?_⟩
  rw [startOf_join fs directory hname]
  exact h

/-- **A file in a directory is found under its path**, and nothing else is. -/
theorem LeadsToDirectory.placeOfFile?_join
    (h : fs.LeadsToDirectory directory d) (hname : IsEntryName name) :
    fs.placeOfFile? (Path.join directory name)
      = if (fs.contentAt? (d ++ [name])).isSome then some (d ++ [name]) else none := by
  have hleads := h.leadsTo_join hname
  cases hcontent : fs.contentAt? (d ++ [name]) with
  | some content =>
      rw [placeOfFile?, find_eq_file_iff.mpr ⟨hleads, hcontent⟩]
      rfl
  | none =>
      rw [placeOfFile?]
      split
      · rename_i hfind
        obtain ⟨hleads', hcontent'⟩ := find_eq_file_iff.mp hfind
        rw [← hleads.unique hleads', hcontent] at hcontent'
        exact nomatch hcontent'
      · rfl

theorem isFile_eq (fs : FileSystem) (path : String) :
    fs.isFile path = (fs.placeOfFile? path).isSome := by
  rw [isFile, placeOfFile?]
  rcases fs.find path with e | (⟨p, c⟩ | d) <;> rfl

/-- An entry of a directory is a file if there is something in its place. -/
theorem LeadsToDirectory.isFile_join (h : fs.LeadsToDirectory directory d)
    (hname : IsEntryName name) :
    fs.isFile (Path.join directory name) = (fs.contentAt? (d ++ [name])).isSome := by
  rw [isFile_eq, h.placeOfFile?_join hname]
  split <;> simp_all

/-! ## The ancestors of a path -/

/-- **An upward search looks into the directories that the path passes**, the last one first. -/
theorem find?_ancestors {p : String → Bool} {q : Place → Bool}
    (hpq : ∀ path d, fs.LeadsToDirectory path d → p path = q d)
    (h : fs.LeadsToDirectory path d) :
    ((Path.ancestors path).find? p).map fs.placeOf
        = (climb (fs.startOf path) (Path.steps path)).find? q
      ∧ ∀ found, (Path.ancestors path).find? p = some found →
        fs.LeadsToDirectory found (fs.placeOf found) := by
  -- on the way up: the path itself is looked at first, and then the ancestors of its parent
  induction path using Path.parent_induction generalizing d with
  | top path hparent =>
      have hd := h.eq_placeOf
      have hsteps := Path.steps_of_parent?_eq_none hparent
      have hplace : fs.placeOf path = fs.startOf path := by rw [placeOf, hsteps]; rfl
      have hp : p path = q (fs.startOf path) := by rw [hpq path d h, hd, hplace]
      rw [Path.ancestors_of_parent?_eq_none hparent, hsteps, climb_nil]
      by_cases hq : q (fs.startOf path) = true
      · rw [List.find?_cons_of_pos (hp.trans hq), List.find?_cons_of_pos hq]
        refine ⟨congrArg some hplace, fun found hfound => ?_⟩
        cases hfound
        exact hd ▸ h
      · rw [List.find?_cons_of_neg (hp ▸ hq), List.find?_cons_of_neg hq]
        exact ⟨rfl, fun found hfound => nomatch hfound⟩
  | below path parent hparent ih =>
      have hd := h.eq_placeOf
      have hp : p path = q (fs.placeOf path) := by rw [hpq path d h, hd]
      obtain ⟨e, he⟩ := h.exists_parent hparent
      obtain ⟨hfind, hfound⟩ := ih he
      rw [startOf_parent? hparent, Path.steps_parent? hparent] at hfind
      rw [Path.ancestors_of_parent? hparent, find?_climb]
      change _ = (if q (fs.placeOf path) = true then some (fs.placeOf path) else _) ∧ _
      by_cases hq : q (fs.placeOf path) = true
      · rw [List.find?_cons_of_pos (hp.trans hq), if_pos hq]
        refine ⟨rfl, fun found hfound => ?_⟩
        cases hfound
        exact hd ▸ h
      · rw [List.find?_cons_of_neg (hp ▸ hq), if_neg hq]
        exact ⟨hfind, hfound⟩

end BeanMapper.FileSystem
