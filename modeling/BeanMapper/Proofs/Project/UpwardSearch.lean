import BeanMapper.Project
import BeanMapper.Proofs.FileSystem.Directories
import Mathlib.Data.List.Find

/-!
# Upward search — the configuration and the root of a project

    For a file, the nearest configuration file and the nearest root of a
    project are searched upwards, and the two searches climb in two ways: one
    from the parent of the path, the other from the directory of the file,
    which is `.` for a bare name.  Both look into the directories that the
    steps of the path pass before the last one (`configuration_search`,
    `root_search`), so both find the nearest directory exactly if these
    directories meet it (`upward_search_finds_nearest_iff`).  A path from the
    root without steps up always meets it; a relative path may end below it,
    and behind a step up stands a directory that is not above the file
    (`upward_search_goes_astray`). -/

namespace BeanMapper

open FileSystem

namespace FileSystem

variable {fs : FileSystem} {path parent name : String} {d place : Place}

/-! ## What is searched for -/

/-- Whether there is a file with a name in a directory. -/
def holds (fs : FileSystem) (d : Place) (name : String) : Bool :=
  (fs.contentAt? (d ++ [name])).isSome

/-- The name of the configuration file in a directory. -/
def configName? (fs : FileSystem) (d : Place) : Option String :=
  ConfigFile.names.find? (fs.holds d)

/-- Whether a directory holds a configuration file. -/
def hasConfig (fs : FileSystem) (d : Place) : Bool := (fs.configName? d).isSome

/-- A path leads to the configuration file in a directory. -/
def LeadsToConfig (fs : FileSystem) (path : String) (d : Place) : Prop :=
  ∃ name, fs.configName? d = some name ∧ fs.placeOfFile? path = some (d ++ [name])

/-- Whether a directory holds a file that marks the root of a project. -/
def hasMarker (fs : FileSystem) (d : Place) : Bool := Project.markers.any (fs.holds d)

theorem isEntryName_of_mem_names (h : name ∈ ConfigFile.names) : IsEntryName name := by
  rcases List.mem_cons.mp h with rfl | h
  · exact ⟨by decide, by decide, by decide⟩
  · rw [List.mem_singleton.mp h]
    exact ⟨by decide, by decide, by decide⟩

theorem isEntryName_of_mem_markers (h : name ∈ Project.markers) : IsEntryName name := by
  have hall : ∀ name ∈ Project.markers,
      Path.isStep name.toList = true ∧ '/' ∉ name.toList ∧ name ≠ ".." := by decide
  obtain ⟨hstep, hslash, hup⟩ := hall name h
  exact ⟨hstep, hslash, hup⟩

/-- The configuration file in a directory is found by its path. -/
theorem LeadsToDirectory.inDirectory? {directory : String} (h : fs.LeadsToDirectory directory d) :
    ConfigFile.inDirectory? fs directory = (fs.configName? d).map (Path.join directory) := by
  have hholds : ∀ name ∈ ConfigFile.names, fs.isFile (Path.join directory name) = fs.holds d name :=
    fun name hname => h.isFile_join (isEntryName_of_mem_names hname)
  rw [ConfigFile.inDirectory?, List.find?_map, configName?]
  exact congrArg _ (List.find?_congr hholds)

/-- Whether a directory is a root is seen from the entries in its place. -/
theorem LeadsToDirectory.isRoot {directory : String} (h : fs.LeadsToDirectory directory d) :
    Project.isRoot fs directory = fs.hasMarker d := by
  rw [Project.isRoot, List.any_map, hasMarker, Bool.eq_iff_iff, List.any_eq_true, List.any_eq_true]
  refine exists_congr fun name => and_congr_right fun hname => ?_
  rw [Function.comp_apply, h.isFile_join (isEntryName_of_mem_markers hname), holds]

/-- A path leads to the settings of one directory only. -/
theorem LeadsToConfig.unique {e : Place} (h : fs.LeadsToConfig path d)
    (h' : fs.LeadsToConfig path e) : e = d := by
  obtain ⟨name, -, hplace⟩ := h
  obtain ⟨name', -, hplace'⟩ := h'
  exact (List.append_inj' (Option.some.inj (hplace'.symm.trans hplace)) rfl).1

/-- The settings in a directory are reached by a path through it. -/
theorem LeadsToDirectory.leadsToConfig {directory : String} (h : fs.LeadsToDirectory directory d)
    (hname : fs.configName? d = some name) :
    fs.LeadsToConfig (Path.join directory name) d := by
  refine ⟨name, hname, ?_⟩
  have hholds : fs.holds d name = true := List.find?_some hname
  rw [h.placeOfFile?_join (isEntryName_of_mem_names (List.mem_of_find?_eq_some hname))]
  exact if_pos hholds

/-! ## Where the searches start -/

theorem LeadsTo.exists_parent (h : fs.LeadsTo path place) :
    ∃ parent, Path.parent? path = some parent := by
  obtain ⟨-, -, names, name, d, hsteps, -, -, -⟩ := h
  cases hparent : Path.parent? path with
  | some parent => exact ⟨parent, rfl⟩
  | none =>
      rw [Path.steps_of_parent?_eq_none hparent] at hsteps
      exact absurd hsteps.symm (List.append_ne_nil_of_right_ne_nil names (List.cons_ne_nil name []))

/-- A search along the ancestors of the parent of a file, or of the directory `.` in the place of
    an empty parent. -/
structure Starts (fs : FileSystem) (path start : String) : Prop where
  /-- The start is spelled with the steps of the path before the last one. -/
  steps : Path.steps start = (Path.steps path).dropLast
  /-- It starts where the path starts. -/
  startOf : fs.startOf start = fs.startOf path

/-- A search may start at the parent of a file. -/
theorem starts_parent (hparent : Path.parent? path = some parent) : fs.Starts path parent :=
  ⟨Path.steps_parent? hparent, startOf_parent? hparent⟩

/-- A search may start at the directory of a file, which is `.` for a bare name. -/
theorem starts_directoryOf (hparent : Path.parent? path = some parent) :
    fs.Starts path (Path.directoryOf path) := by
  have hstarts : fs.Starts path parent := starts_parent hparent
  rw [Path.directoryOf, hparent]
  dsimp only
  split
  · -- a dot is spelled without steps, like the empty path that it stands for
    rename_i hempty
    rw [String.isEmpty_iff] at hempty
    rw [hempty] at hstarts
    exact ⟨hstarts.steps, hstarts.startOf⟩
  · exact hstarts

/-- Every such start leads to the directory that holds the file. -/
theorem Starts.leadsToDirectory {start : String} (h : fs.Starts path start)
    (hleads : fs.LeadsTo path place) : fs.LeadsToDirectory start place.dropLast := by
  obtain ⟨-, -, names, name, d, hsteps, -, rfl, hd⟩ := hleads
  rw [LeadsToDirectory, h.steps, h.startOf, hsteps, List.dropLast_concat, List.dropLast_concat, hd]

/-- **Such a search looks into the directories that the path of the file passes.** -/
theorem Starts.find?_ancestors {start : String} {p : String → Bool} {q : Place → Bool}
    (h : fs.Starts path start) (hleads : fs.LeadsTo path place)
    (hpq : ∀ path d, fs.LeadsToDirectory path d → p path = q d) :
    ((Path.ancestors start).find? p).map fs.placeOf = (fs.passed path).find? q
      ∧ ∀ found, (Path.ancestors start).find? p = some found →
        fs.LeadsToDirectory found (fs.placeOf found) := by
  have hsearch := FileSystem.find?_ancestors hpq (h.leadsToDirectory hleads)
  rwa [h.steps, h.startOf] at hsearch

/-! ## The two searches -/

theorem findSome?_eq {α β : Type} (f : α → Option β) (l : List α) :
    l.findSome? f = (l.find? fun a => (f a).isSome).bind f := by
  induction l with
  | nil => rfl
  | cons a l ih => cases ha : f a <;> simp [ha, ih]

/-- **The search for a configuration file** finds the one in the first directory with one that the
    path passes. -/
theorem configuration_search (hleads : fs.LeadsTo path place) (hfile : fs.isFile path = true) :
    (ConfigFile.find? fs path = none ↔ (fs.passed path).find? fs.hasConfig = none)
      ∧ ∀ file, ConfigFile.find? fs path = some file →
        ∃ d, (fs.passed path).find? fs.hasConfig = some d ∧ fs.LeadsToConfig file d := by
  obtain ⟨parent, hparent⟩ := hleads.exists_parent
  have hfind : ConfigFile.find? fs path
      = ((Path.ancestors parent).find? fun a => (ConfigFile.inDirectory? fs a).isSome).bind
        (ConfigFile.inDirectory? fs) := by
    simp only [ConfigFile.find?, hfile, if_true, hparent, Option.bind_some, findSome?_eq]
  have hlooks : ∀ a d, fs.LeadsToDirectory a d →
      (ConfigFile.inDirectory? fs a).isSome = fs.hasConfig d := fun a d ha => by
    rw [ha.inDirectory?, Option.isSome_map, hasConfig]
  obtain ⟨hplace, hfound⟩ := (starts_parent hparent).find?_ancestors hleads hlooks
  rw [← hplace, hfind, Option.map_eq_none_iff]
  cases ha : (Path.ancestors parent).find? fun a => (ConfigFile.inDirectory? fs a).isSome with
  | none => exact ⟨Iff.rfl, fun file hfile => nomatch hfile⟩
  | some a =>
      have hleads' := hfound a ha
      have hsome := List.find?_some ha
      rw [Option.bind_some, hleads'.inDirectory?]
      rw [hleads'.inDirectory?, Option.isSome_map] at hsome
      obtain ⟨name, hname⟩ := Option.isSome_iff_exists.mp hsome
      rw [hname]
      refine ⟨by simp, fun file hfile => ?_⟩
      cases hfile
      exact ⟨_, rfl, hleads'.leadsToConfig hname⟩

/-- **The search for a root** finds the first directory with a marker that the path passes. -/
theorem root_search (hleads : fs.LeadsTo path place) :
    (Project.findRoot? fs path).map fs.placeOf = (fs.passed path).find? fs.hasMarker := by
  obtain ⟨parent, hparent⟩ := hleads.exists_parent
  exact ((starts_directoryOf hparent).find?_ancestors hleads fun a d ha => ha.isRoot).1

/-- **An upward search finds the nearest directory exactly if the path meets it.**  For a file that
    a path leads to, the nearest directory that holds a configuration file is found, and the file
    in it, if and only if the directories that the path passes meet it: it is passed itself, and
    no directory off the way up with such a file is passed before it, or passed at all if there is
    no such directory above.  The same holds of the nearest directory that marks the root of a
    project.  Without steps up, a path meets the nearest directory if and only if it starts at or
    above it.  Both searches climb from parent to parent until there is none. -/
theorem upward_search_finds_nearest_iff {content : Content}
    (hfind : fs.find path = .ok (.file place content)) :
    (FindsNearest fs.LeadsToConfig fs.hasConfig place.dropLast (ConfigFile.find? fs path)
        ↔ MeetsNearest fs.hasConfig (fs.passed path) place.dropLast)
      ∧ (FindsNearest (fun found d => fs.placeOf found = d) fs.hasMarker place.dropLast
          (Project.findRoot? fs path)
        ↔ MeetsNearest fs.hasMarker (fs.passed path) place.dropLast)
      ∧ (".." ∉ Path.steps path → ∀ marked, MeetsNearest marked (fs.passed path) place.dropLast
        ↔ ∀ d, IsNearest marked place.dropLast d → fs.startOf path <+: d)
      ∧ ∀ start, Path.IsAscent start (Path.ancestors start) := by
  obtain ⟨hleads, -⟩ := find_eq_file_iff.mp hfind
  have hfile : fs.isFile path = true := by rw [isFile, hfind]
  have hroot := root_search hleads
  obtain ⟨hnone, hsome⟩ := configuration_search hleads hfile
  rw [hleads.dropLast_eq]
  refine ⟨findsNearest_iff hnone fun file hfile => ?_, findsNearest_iff ?_ fun found hfound => ?_,
    fun hup marked => meetsNearest_iff_of_notMem fun hmem => hup (List.mem_of_mem_dropLast hmem),
    Path.isAscent_ancestors⟩
  · obtain ⟨d, hd, hconfig⟩ := hsome file hfile
    exact ⟨d, hd, fun e => ⟨hconfig.unique, fun he => he ▸ hconfig⟩⟩
  · rw [← passed, ← hroot, Option.map_eq_none_iff]
  · refine ⟨fs.placeOf found, ?_, fun e => eq_comm⟩
    rw [← passed, ← hroot, hfound]
    rfl

/-- A file under a directory with a build file, a directory with a configuration file, and one with
    another configuration file. -/
def nestedMarkers : FileSystem where
  files := [(["o2ox.json"], .text "{}"), (["w", "o2ox.json"], .text "{}"),
    (["w", "x", "pom.xml"], .text ""), (["w", "x", "y", "Order.java"], .text "class Order {}")]
  workingDirectory := ["w"]

/-- Of the nested markers the nearest ones are found, from the root and from the directory that holds
    the nearest configuration file. -/
theorem upward_search_of_nested_markers :
    (∃ found, ConfigFile.find? nestedMarkers "/w/x//y/Order.java" = some found
        ∧ nestedMarkers.LeadsToConfig found ["w"])
      ∧ ∃ found, Project.findRoot? nestedMarkers "x/./y/Order.java" = some found
        ∧ nestedMarkers.placeOf found = ["w", "x"] := by
  have habsolute : nestedMarkers.find "/w/x//y/Order.java"
      = .ok (.file ["w", "x", "y", "Order.java"] (.text "class Order {}")) := by decide +kernel
  have hrelative : nestedMarkers.find "x/./y/Order.java"
      = .ok (.file ["w", "x", "y", "Order.java"] (.text "class Order {}")) := by decide +kernel
  have hconfig : IsNearest nestedMarkers.hasConfig ["w", "x", "y"] ["w"] :=
    isNearest_iff.mpr (by decide +kernel)
  have hroot : IsNearest nestedMarkers.hasMarker ["w", "x", "y"] ["w", "x"] :=
    isNearest_iff.mpr (by decide +kernel)
  obtain ⟨hfinds, -, hmeets, -⟩ := upward_search_finds_nearest_iff habsolute
  obtain ⟨-, hfinds', hmeets', -⟩ := upward_search_finds_nearest_iff hrelative
  constructor
  · refine (hfinds.mpr ((hmeets (by decide +kernel) _).mpr fun d _ => ?_)).some _ hconfig
    exact List.nil_prefix
  · refine (hfinds'.mpr ((hmeets' (by decide +kernel) _).mpr fun d hd => ?_)).some _ hroot
    rw [hd.unique hroot]
    decide +kernel

/-- A file beside a directory with a configuration file. -/
def fileBesideConfig : FileSystem where
  files := [(["w", "Order.java"], .text "class Order {}"), (["w", "x", ".o2ox.json"], .text "{}")]
  workingDirectory := ["w"]

/-- A file in a directory under one with a configuration file. -/
def fileUnderConfig : FileSystem where
  files := [(["w", ".o2ox.json"], .text "{}"), (["w", "x", "Order.java"], .text "class Order {}")]
  workingDirectory := ["w", "x"]

/-- **The spelling of a path misleads both searches.**  On a detour through a directory, what is in
    that directory is found, though nothing at or above the file is marked; and under a bare name,
    nothing above the working directory is found. -/
theorem upward_search_goes_astray :
    (fileBesideConfig.find "x/../Order.java"
          = .ok (.file ["w", "Order.java"] (.text "class Order {}"))
        ∧ ¬ FindsNearest fileBesideConfig.LeadsToConfig fileBesideConfig.hasConfig ["w"]
          (ConfigFile.find? fileBesideConfig "x/../Order.java")
        ∧ ¬ FindsNearest (fun found d => fileBesideConfig.placeOf found = d)
          fileBesideConfig.hasMarker ["w"] (Project.findRoot? fileBesideConfig "x/../Order.java"))
      ∧ fileUnderConfig.find "Order.java"
          = .ok (.file ["w", "x", "Order.java"] (.text "class Order {}"))
        ∧ ¬ FindsNearest fileUnderConfig.LeadsToConfig fileUnderConfig.hasConfig ["w", "x"]
          (ConfigFile.find? fileUnderConfig "Order.java")
        ∧ ¬ FindsNearest (fun found d => fileUnderConfig.placeOf found = d)
          fileUnderConfig.hasMarker ["w", "x"] (Project.findRoot? fileUnderConfig "Order.java") := by
  have hfree : ∀ {marked : Place → Bool}, (["w"] : Place).inits.all (! marked ·) = true →
      ∀ d, d <+: ["w"] → marked d = false := fun hall d hd => by
    simpa using List.all_eq_true.mp hall d ((List.mem_inits d _).mpr hd)
  refine ⟨⟨by decide +kernel, fun h => ?_, fun h => ?_⟩, by decide +kernel, fun h => ?_, fun h => ?_⟩
  · have hnone := h.none (hfree (by decide +kernel))
    exact absurd hnone (by decide +kernel)
  · have hnone := h.none (hfree (by decide +kernel))
    exact absurd hnone (by decide +kernel)
  · obtain ⟨found, hfound, -⟩ := h.some ["w"] (isNearest_iff.mpr (by decide +kernel))
    have hnone : ConfigFile.find? fileUnderConfig "Order.java" = none := by decide +kernel
    exact nomatch hnone.symm.trans hfound
  · obtain ⟨found, hfound, -⟩ := h.some ["w"] (isNearest_iff.mpr (by decide +kernel))
    have hnone : Project.findRoot? fileUnderConfig "Order.java" = none := by decide +kernel
    exact nomatch hnone.symm.trans hfound

end FileSystem

end BeanMapper
