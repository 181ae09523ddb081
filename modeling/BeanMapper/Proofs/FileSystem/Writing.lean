import BeanMapper.FileSystem.State
import Mathlib.Data.List.Basic

/-!
# Writing — what a written file changes

    A text is written to the place that a path leads to, and nothing else
    changes: no other file, no directory (`contentAt?_put`, `SameBut.put`).
    Where the path leads to a file before, the text is written to that file
    (`sameBut_of_write`); and behind a write the path leads to what was written
    (`read_of_write`), since the steps before the last one lead where they led
    before. -/

namespace BeanMapper.FileSystem

variable {fs after : FileSystem} {path text name : String} {place d e p : Place}
  {content : Content} {names : List String} {from? : Except FileError Entry}

/-! ## Files -/

theorem lookup_cons_eq (p q : Place) (content : Content) (files : List (Place × Content)) :
    ((q, content) :: files).lookup p = if p = q then some content else files.lookup p := by
  by_cases h : p = q
  · rw [if_pos h, h, List.lookup_cons_self]
  · rw [if_neg h, List.lookup_cons, beq_false_of_ne h]

theorem lookup_putFile (files : List (Place × Content)) (place : Place) (text : String) (p : Place) :
    (putFile files place text).lookup p
      = if p = place then some (.text text) else files.lookup p := by
  induction files with
  | nil => rw [putFile, lookup_cons_eq]
  | cons f files ih =>
      obtain ⟨q, content⟩ := f
      by_cases hq : q = place
      · rw [putFile, if_pos hq, hq, lookup_cons_eq, lookup_cons_eq]
        by_cases hp : p = place
        · rw [if_pos hp, if_pos hp]
        · rw [if_neg hp, if_neg hp, if_neg hp]
      · rw [putFile, if_neg hq, lookup_cons_eq, lookup_cons_eq, ih]
        by_cases hp : p = q
        · rw [if_pos hp, if_pos hp, if_neg (hp ▸ hq)]
        · rw [if_neg hp, if_neg hp]

/-- **What files hold behind a write.** -/
theorem contentAt?_put (fs : FileSystem) (place : Place) (text : String) (p : Place) :
    (fs.put place text).contentAt? p
      = if p = place then some (.text text) else fs.contentAt? p :=
  lookup_putFile fs.files place text p

/-- A file that is there is replaced where it is. -/
theorem map_fst_putFile {files : List (Place × Content)} (h : files.lookup place = some content)
    (text : String) : (putFile files place text).map Prod.fst = files.map Prod.fst := by
  induction files with
  | nil => exact nomatch h
  | cons f files ih =>
      obtain ⟨q, c⟩ := f
      by_cases hq : q = place
      · rw [putFile, if_pos hq]
        rfl
      · rw [lookup_cons_eq, if_neg (Ne.symm hq)] at h
        rw [putFile, if_neg hq, List.map_cons, List.map_cons, ih h]

/-- Two file systems have the same files and directories, and at most one file holds something
    else. -/
structure SameBut (place : Place) (before after : FileSystem) : Prop where
  /-- No file comes or goes. -/
  places : after.files.map Prod.fst = before.files.map Prod.fst
  /-- The other files hold what they held. -/
  content : ∀ p, p ≠ place → after.contentAt? p = before.contentAt? p
  /-- The directories are the same. -/
  directories : after.directories = before.directories
  /-- The working directory is the same. -/
  workingDirectory : after.workingDirectory = before.workingDirectory

/-- Writing to a file that is there changes no other one. -/
theorem SameBut.put (h : fs.contentAt? place = some content) (text : String) :
    SameBut place fs (fs.put place text) where
  places := map_fst_putFile h text
  content := fun p hp => by rw [contentAt?_put, if_neg hp]
  directories := rfl
  workingDirectory := rfl

/-! ## Entries -/

theorem entryAt_eq_file_iff :
    fs.entryAt p = .ok (.file place content) ↔ p = place ∧ fs.contentAt? p = some content := by
  rw [entryAt]
  cases fs.contentAt? p with
  | some c => simp
  | none => by_cases h : fs.isDirectoryAt p <;> simp [h]

theorem entryAt_eq_directory_iff :
    fs.entryAt p = .ok (.directory d)
      ↔ p = d ∧ fs.contentAt? p = none ∧ fs.isDirectoryAt p = true := by
  rw [entryAt]
  cases fs.contentAt? p with
  | some c => simp
  | none => by_cases h : fs.isDirectoryAt p <;> simp [h]

/-- Directories stay where they are when a file is put. -/
theorem isDirectoryAt_put (h : fs.isDirectoryAt p = true) (place : Place) (text : String) :
    (fs.put place text).isDirectoryAt p = true := by
  have hfiles : ∀ files : List (Place × Content),
      (files.any fun f => p.isPrefixOf f.1 && p != f.1) = true →
        ((putFile files place text).any fun f => p.isPrefixOf f.1 && p != f.1) = true := by
    intro files
    induction files with
    | nil => exact fun hany => nomatch hany
    | cons f files ih =>
        obtain ⟨q, c⟩ := f
        intro hany
        rw [List.any_cons, Bool.or_eq_true] at hany
        rw [putFile]
        split
        · rw [List.any_cons, Bool.or_eq_true]
          exact hany
        · rw [List.any_cons, Bool.or_eq_true]
          exact hany.imp_right ih
  rw [isDirectoryAt, Bool.or_eq_true] at h ⊢
  exact h.imp_right (hfiles _)

/-! ## Steps -/

/-- A step that leads to a file leads from a directory to the place of its name. -/
theorem step_eq_file_iff :
    fs.step from? name = .ok (.file place content) ↔
      ∃ d, from? = .ok (.directory d) ∧ name ≠ ".." ∧ place = d ++ [name]
        ∧ fs.contentAt? place = some content := by
  rcases from? with e | (⟨q, c⟩ | d)
  · simp [step]
  · simp [step]
  · by_cases hname : name = ".."
    · simp [step, hname]
    · simp only [step, if_neg hname, entryAt_eq_file_iff]
      constructor
      · rintro ⟨rfl, hcontent⟩
        exact ⟨d, rfl, hname, rfl, hcontent⟩
      · rintro ⟨_, hd, -, rfl, hcontent⟩
        cases hd
        exact ⟨rfl, hcontent⟩

theorem exists_directory_of_step (h : fs.step from? name = .ok (.directory e)) :
    ∃ d, from? = .ok (.directory d) := by
  rcases from? with _ | (_ | d)
  · exact nomatch h
  · exact nomatch h
  · exact ⟨d, rfl⟩

theorem exists_directory_of_steps (h : names.foldl fs.step from? = .ok (.directory e)) :
    ∃ d, from? = .ok (.directory d) := by
  induction names generalizing from? with
  | nil => exact ⟨e, h⟩
  | cons name names ih =>
      obtain ⟨d, hd⟩ := ih h
      exact exists_directory_of_step hd

/-- **Steps through directories lead to the same one behind a write** to a place where there is no
    directory. -/
theorem steps_put (hplace : fs.isDirectoryAt place = false)
    (h : names.foldl fs.step (.ok (.directory d)) = .ok (.directory e)) (text : String) :
    names.foldl (fs.put place text).step (.ok (.directory d)) = .ok (.directory e) := by
  -- every step leads to a directory, so none leads to the place that is written
  induction names generalizing d with
  | nil => exact h
  | cons name names ih =>
      rw [List.foldl_cons] at h ⊢
      obtain ⟨d', hd'⟩ := exists_directory_of_steps h
      rw [hd'] at h
      have hstep : (fs.put place text).step (.ok (.directory d)) name = .ok (.directory d') := by
        by_cases hname : name = ".."
        · simpa only [step, if_pos hname] using hd'
        · simp only [step, if_neg hname, entryAt_eq_directory_iff] at hd' ⊢
          obtain ⟨rfl, hcontent, hdirectory⟩ := hd'
          have hne : d ++ [name] ≠ place := by
            rintro rfl
            rw [hdirectory] at hplace
            exact nomatch hplace
          refine ⟨rfl, ?_, isDirectoryAt_put hdirectory place text⟩
          rw [contentAt?_put, if_neg hne, hcontent]
      rw [hstep]
      exact ih h

/-! ## Paths -/

/-- The steps of a path lead to a place in a directory, where a file may stand. -/
def LeadsTo (fs : FileSystem) (path : String) (place : Place) : Prop :=
  path.isEmpty = false ∧ wantsDirectory path = false
    ∧ ∃ names name d, Path.steps path = names ++ [name] ∧ name ≠ ".." ∧ place = d ++ [name]
      ∧ names.foldl fs.step (.ok (.directory (fs.startOf path))) = .ok (.directory d)

/-- A path leads to one file at most. -/
theorem LeadsTo.unique {q : Place} (h : fs.LeadsTo path p) (h' : fs.LeadsTo path q) : p = q := by
  obtain ⟨-, -, names, name, d, hsteps, -, rfl, hd⟩ := h
  obtain ⟨-, -, names', name', d', hsteps', -, rfl, hd'⟩ := h'
  obtain ⟨rfl, hname⟩ := List.append_inj' (hsteps.symm.trans hsteps') rfl
  rw [hd] at hd'
  cases hd'
  rw [hname]

/-- A path leads where it did after a file was put where no directory is. -/
theorem LeadsTo.put (h : fs.LeadsTo path p) (hplace : fs.isDirectoryAt place = false)
    (text : String) : (fs.put place text).LeadsTo path p := by
  obtain ⟨hpath, hwants, names, name, d, hsteps, hname, hp, hd⟩ := h
  exact ⟨hpath, hwants, names, name, d, hsteps, hname, hp, steps_put hplace hd text⟩

/-- **What a path leads to**, if it is a file. -/
theorem find_eq_file_iff :
    fs.find path = .ok (.file place content)
      ↔ fs.LeadsTo path place ∧ fs.contentAt? place = some content := by
  constructor
  · intro h
    rw [find] at h
    split at h
    · exact nomatch h
    · rename_i hpath
      split at h
      · rename_i hfold
        split at h
        · exact nomatch h
        · rename_i hwants
          cases h
          rcases List.eq_nil_or_concat (Path.steps path) with hnil | ⟨names, name, hsteps⟩
          · rw [hnil] at hfold
            exact nomatch hfold
          · rw [List.concat_eq_append] at hsteps
            rw [hsteps, List.foldl_append] at hfold
            obtain ⟨d, hd, hname, hplace, hcontent⟩ := step_eq_file_iff.mp hfold
            exact ⟨⟨by simpa using hpath, by simpa using hwants, names, name, d, hsteps, hname, hplace,
              hd⟩, hcontent⟩
      · rename_i hother
        exact absurd h (hother _ _)
  · rintro ⟨⟨hpath, hwants, names, name, d, hsteps, hname, hplace, hd⟩, hcontent⟩
    have hfold : (Path.steps path).foldl fs.step (.ok (.directory (fs.startOf path)))
        = .ok (.file place content) := by
      rw [hsteps, List.foldl_append]
      exact step_eq_file_iff.mpr ⟨d, hd, hname, hplace, hcontent⟩
    simp only [find, hpath, hfold, hwants, Bool.false_eq_true, if_false]

/-- **Where a text is written** under a path. -/
theorem target_eq_ok_iff :
    fs.target path = .ok place ↔ fs.LeadsTo path place ∧ fs.isDirectoryAt place = false := by
  constructor
  · intro h
    rw [target] at h
    split at h
    · exact nomatch h
    · rename_i hpath
      dsimp only at h
      split at h
      · exact nomatch h
      · exact nomatch h
      · exact nomatch h
      · rename_i d name hfold hlast
        split at h
        · exact nomatch h
        · rename_i hfree
          cases h
          simp only [Bool.or_eq_true, not_or, Bool.not_eq_true, decide_eq_false_iff_not] at hfree
          refine ⟨⟨by simpa using hpath, hfree.1.1, _, name, d, ?_, hfree.1.2, rfl, hfold⟩, hfree.2⟩
          exact (List.dropLast_append_getLast? name hlast).symm
  · rintro ⟨⟨hpath, hwants, names, name, d, hsteps, hname, rfl, hd⟩, hfree⟩
    have hlast : (Path.steps path).getLast? = some name := by rw [hsteps, List.getLast?_concat]
    have hinit : (Path.steps path).dropLast = names := by rw [hsteps, List.dropLast_concat]
    simp only [target, hpath, hinit, hd, hlast, hwants, hname, hfree, Bool.false_eq_true, if_false,
      decide_false, Bool.or_false]

/-- The text of a file is what its path leads to. -/
theorem read_eq_ok_iff :
    fs.read path = .ok text ↔ ∃ place, fs.find path = .ok (.file place (.text text)) := by
  rw [read]
  rcases fs.find path with e | (⟨q, c | _⟩ | d) <;> simp

/-- A write puts the text at the place that the path leads to. -/
theorem write_eq_ok_iff :
    fs.write path text = .ok after ↔
      ∃ place, fs.LeadsTo path place ∧ fs.isDirectoryAt place = false
        ∧ after = fs.put place text := by
  simp only [← and_assoc, ← target_eq_ok_iff]
  rw [write]
  cases fs.target path with
  | error e => simp [Except.map]
  | ok place =>
      constructor
      · intro h
        exact ⟨place, rfl, (Except.ok.inj h).symm⟩
      · rintro ⟨_, hplace, rfl⟩
        cases hplace
        rfl

/-- **What is written can be read.** -/
theorem read_of_write (h : fs.write path text = .ok after) : after.read path = .ok text := by
  obtain ⟨place, hleads, hfree, rfl⟩ := write_eq_ok_iff.mp h
  refine read_eq_ok_iff.mpr ⟨place, find_eq_file_iff.mpr ⟨hleads.put hfree text, ?_⟩⟩
  rw [contentAt?_put, if_pos rfl]

/-- **Writing under the path of a file** replaces what that file holds and nothing else. -/
theorem sameBut_of_write (hfind : fs.find path = .ok (.file place content))
    (hwrite : fs.write path text = .ok after) :
    SameBut place fs after ∧ after.contentAt? place = some (.text text) := by
  obtain ⟨p, hleads, -, rfl⟩ := write_eq_ok_iff.mp hwrite
  obtain ⟨hleads', hcontent⟩ := find_eq_file_iff.mp hfind
  obtain rfl := hleads.unique hleads'
  refine ⟨SameBut.put hcontent text, ?_⟩
  rw [contentAt?_put, if_pos rfl]

end BeanMapper.FileSystem
