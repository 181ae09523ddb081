import BeanMapper.Java.Extract

/-! # Missing setters — what a pass over the fields adds to a class

    Setters are added to a class field by field, and whether one is missing is
    asked of a list of methods that grows on the way.

    * `missing` picks the fields whose setters are missing by the names that
      are taken, and `foldl_addSetter` says that the pass adds the setters of
      these fields behind the methods of the class;
    * `mem_names_missing_iff` says that no name is left out and none is taken
      twice from the methods, `pairwise_missing` that every name comes from the
      first field that gives it, which makes the names distinct
      (`nodup_names_missing`);
    * `complete_of_class` and `complete_of_not` say what becomes of a class and
      of any other type, `complete_eq` what both have in common. -/

namespace BeanMapper.Java

namespace Synthesis

variable {taken : List String} {fields : List FieldEntry} {f g : FieldEntry}

/-- The setter of a field. -/
def setterOf (result : ReturnType) (f : FieldEntry) : Method := ⟨setterName f.name, 1, result⟩

/-- The fields whose setters are missing where some names are taken, each for the first field that
    gives its name. -/
def missing (taken : List String) : List FieldEntry → List FieldEntry
  | [] => []
  | f :: fs =>
      if setterName f.name ∈ taken then missing taken fs
      else f :: missing (taken ++ [setterName f.name]) fs

/-- The names of the setters of some fields. -/
def names (fields : List FieldEntry) : List String := fields.map fun f => setterName f.name

theorem hasMethod_iff {d : Declaration} {name : String} :
    d.hasMethod name = true ↔ name ∈ d.methods.map (·.name) := by
  rw [Declaration.hasMethod, List.any_eq_true, List.mem_map]
  simp only [beq_iff_eq]

/-- **The pass adds the setters that are missing** behind the methods of a declaration and changes
    nothing else; by induction on the fields, with the methods growing. -/
theorem foldl_addSetter (result : ReturnType) (fields : List FieldEntry) (d : Declaration) :
    fields.foldl (addSetter result) d
      = { d with
          methods := d.methods ++ (missing (d.methods.map (·.name)) fields).map (setterOf result) } := by
  induction fields generalizing d with
  | nil => simp [missing]
  | cons f fs ih =>
      rw [List.foldl_cons, addSetter, missing]
      by_cases htaken : setterName f.name ∈ d.methods.map (·.name)
      · rw [if_pos (hasMethod_iff.mpr htaken), if_pos htaken, ih]
      · rw [if_neg (mt hasMethod_iff.mp htaken), if_neg htaken, ih]
        simp [Declaration.withMethod, setterOf]

/-! ## Which fields these are -/

theorem missing_sublist : (missing taken fields).Sublist fields := by
  induction fields generalizing taken with
  | nil => exact .slnil
  | cons f fs ih =>
      rw [missing]
      split
      · exact ih.cons f
      · exact ih.cons_cons f

/-- A name is that of a missing setter exactly if a field gives it and it is not taken. -/
theorem mem_names_missing_iff {name : String} :
    name ∈ names (missing taken fields) ↔ name ∈ names fields ∧ name ∉ taken := by
  induction fields generalizing taken with
  | nil => simp [missing, names]
  | cons f fs ih =>
      rw [missing]
      by_cases htaken : setterName f.name ∈ taken
      · rw [if_pos htaken, ih, names, names, List.map_cons, List.mem_cons]
        -- what is not taken is not the name that the first field gives
        refine and_congr_left fun hname => (or_iff_right fun heq => ?_).symm
        exact hname (heq ▸ htaken)
      · have hih := @ih (taken ++ [setterName f.name])
        rw [names, names] at hih
        rw [if_neg htaken, names, names, List.map_cons, List.map_cons, List.mem_cons, hih,
          List.mem_append, List.mem_singleton, List.mem_cons]
        by_cases heq : name = setterName f.name
        · simp [heq, htaken]
        · simp [heq]

/-- Of these fields, `f` gives its name before any field gives the name of `g`. -/
def GivesBefore (fields : List FieldEntry) (f g : FieldEntry) : Prop :=
  ∃ before after, fields = before ++ f :: after
    ∧ ∀ h ∈ before ++ [f], setterName h.name ≠ setterName g.name

theorem GivesBefore.cons (h : GivesBefore fields f g) {first : FieldEntry}
    (hne : setterName first.name ≠ setterName g.name) : GivesBefore (first :: fields) f g := by
  obtain ⟨before, after, hsplit, hbefore⟩ := h
  exact ⟨first :: before, after, by rw [hsplit, List.cons_append],
    List.forall_mem_cons.mpr ⟨hne, hbefore⟩⟩

/-- What is missing where a name is taken gives another name. -/
theorem name_ne_of_mem_missing {name : String} (hg : g ∈ missing taken fields)
    (hname : name ∈ taken) : name ≠ setterName g.name := by
  intro heq
  have hmissing : name ∈ names (missing taken fields) := List.mem_map.mpr ⟨g, hg, heq.symm⟩
  exact (mem_names_missing_iff.mp hmissing).2 hname

/-- **The missing setters stand in the order of the first fields that give their names.** -/
theorem pairwise_missing : (missing taken fields).Pairwise (GivesBefore fields) := by
  induction fields generalizing taken with
  | nil => exact .nil
  | cons f fs ih =>
      rw [missing]
      by_cases htaken : setterName f.name ∈ taken
      · rw [if_pos htaken]
        exact ih.imp_of_mem fun _ hg h => h.cons (name_ne_of_mem_missing hg htaken)
      · have hnow : setterName f.name ∈ taken ++ [setterName f.name] := by simp
        rw [if_neg htaken, List.pairwise_cons]
        constructor
        · intro g hg
          refine ⟨[], fs, rfl, fun h hh => ?_⟩
          obtain rfl : h = f := List.mem_singleton.mp hh
          exact name_ne_of_mem_missing hg hnow
        · exact ih.imp_of_mem fun _ hg h => h.cons (name_ne_of_mem_missing hg hnow)

/-- No two missing setters have the same name. -/
theorem nodup_names_missing : (names (missing taken fields)).Nodup := by
  refine List.pairwise_map.mpr (pairwise_missing.imp fun h => ?_)
  obtain ⟨before, after, -, hbefore⟩ := h
  exact hbefore _ (List.mem_append_right _ (List.mem_singleton_self _))

/-! ## What becomes of a type -/

/-- The fields of a class whose setters are added to it. -/
def added (d : Declaration) (fields : List FieldEntry) : List FieldEntry :=
  missing (d.methods.map (·.name)) (fields.filter (isEligible (asksForAll d)))

/-- A class gets the setters that are missing for the fields that are eligible. -/
theorem complete_of_class {s : Synthesis} (hon : s.isOn = true) {d : Declaration}
    (hclass : d.kind = .classType) (fields : List FieldEntry) :
    s.complete d fields
      = { d with
          methods := d.methods ++ (added d fields).map (setterOf (returned s.fluentMarkers d)) } := by
  rw [complete, if_pos (by simp [hon, hclass]), foldl_addSetter]
  rfl

/-- Any other type stays as it is, and so does every type if no setters are added at all. -/
theorem complete_of_not {s : Synthesis} {d : Declaration}
    (h : ¬ (s.isOn = true ∧ d.kind = .classType)) (fields : List FieldEntry) :
    s.complete d fields = d := by
  rw [complete, if_neg (by simpa using h)]

end Synthesis

/-- Setters are added to classes alone, if they are added at all, and nothing else is changed. -/
theorem complete_eq (s : Synthesis) (d : Declaration) (fields : List FieldEntry) :
    ∃ added, s.complete d fields = { d with methods := d.methods ++ added }
      ∧ ∀ m ∈ added, s.isOn = true ∧ d.kind = .classType
        ∧ ∃ f ∈ fields, m.name = Synthesis.setterName f.name := by
  by_cases h : s.isOn = true ∧ d.kind = .classType
  · obtain ⟨hon, hclass⟩ := h
    refine ⟨_, Synthesis.complete_of_class hon hclass fields, fun m hm => ⟨hon, hclass, ?_⟩⟩
    obtain ⟨f, hf, rfl⟩ := List.mem_map.mp hm
    exact ⟨f, (List.mem_filter.mp (Synthesis.missing_sublist.mem hf)).1, rfl⟩
  · refine ⟨[], by rw [Synthesis.complete_of_not h, List.append_nil], fun m hm => ?_⟩
    exact absurd hm List.not_mem_nil

end BeanMapper.Java
