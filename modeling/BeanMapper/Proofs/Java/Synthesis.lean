import BeanMapper.Proofs.Java.Written
import BeanMapper.Proofs.Mapping.Chaining
import Mathlib.Data.List.Forall2

/-! # Synthesis — exactly the missing setters are added to a class

    A field is eligible for a setter if it can be assigned anew and if it or
    its class asks for one.

    * `isEligible_iff` reads this off the annotations and the modifiers, and
      `returned_of_marked` and `returned_of_not_marked` say what the setters of
      a class return;
    * `mem_names_added_iff` says which names are added to a class, and
      `AddsMissing` all that becomes of it: each name once, in which order,
      and with what signature;
    * `addsMissing_complete` proves it of the pass over the fields, from the
      lemmas about `missing`; a second pass finds nothing to add
      (`complete_complete`);
    * `missing_setters_are_added` puts this together with extraction: **a tree
      gives the same declarations whether setters are added or not, but for
      the missing setters of its classes.** -/

namespace BeanMapper.Java

namespace Synthesis

variable {d : Declaration} {f : FieldEntry} {fields : List FieldEntry} {markers : List String}

/-! ## Eligible fields -/

/-- A field of a class gets a setter, unless a method has its name. -/
structure Eligible (d : Declaration) (f : FieldEntry) : Prop where
  /-- The field belongs to each object. -/
  notStatic : f.modifiers.isStatic = false
  /-- The field can be assigned anew. -/
  notFinal : f.modifiers.isFinal = false
  /-- The whole class asks for setters, or the field does. -/
  asked : (∃ a ∈ d.annotations, a.GoesBy "lombok.Data" ∨ a.GoesBy "lombok.Setter")
    ∨ ∃ a ∈ f.modifiers.annotations, a.GoesBy "lombok.Setter"

/-- A class asks for all setters by either of two annotations. -/
theorem asksForAll_iff : asksForAll d = true
    ↔ ∃ a ∈ d.annotations, a.GoesBy "lombok.Data" ∨ a.GoesBy "lombok.Setter" := by
  rw [asksForAll, List.any_eq_true]
  simp only [classMarkers, List.any_cons, List.any_nil, Bool.or_false, Bool.or_eq_true,
    Annotation.matchesName_iff]

/-- A field asks for its setter by an annotation of its own. -/
theorem hasFieldMarker_iff : f.modifiers.hasAnnotation fieldMarker = true
    ↔ ∃ a ∈ f.modifiers.annotations, a.GoesBy "lombok.Setter" := by
  rw [Modifiers.hasAnnotation, List.any_eq_true]
  simp only [fieldMarker, Annotation.matchesName_iff]

/-- The fields that get setters, as the rule for them says. -/
theorem isEligible_iff : isEligible (asksForAll d) f = true ↔ Eligible d f := by
  rw [isEligible, Bool.and_eq_true, Bool.and_eq_true, Bool.or_eq_true, Bool.not_eq_true',
    Bool.not_eq_true', asksForAll_iff, hasFieldMarker_iff]
  constructor
  · rintro ⟨⟨hasked, hstatic⟩, hfinal⟩
    exact ⟨hstatic, hfinal, hasked⟩
  · rintro ⟨hstatic, hfinal, hasked⟩
    exact ⟨⟨hasked, hstatic⟩, hfinal⟩

/-! ## What added setters return -/

/-- A fluent marker is switched on for a class. -/
def IsMarked (markers : List String) (d : Declaration) : Prop :=
  ∃ marker ∈ markers, d.markerState marker "chain" = .enabled

/-- The markers are enabled just if the class is marked. -/
theorem fluentMarkerState_isEnabled_iff :
    (Mode.fluentMarkerState d markers).isEnabled = true ↔ IsMarked markers d := by
  rw [MarkerState.isEnabled, beq_iff_eq, Mode.fluentMarkerState, MarkerState.join_eq_enabled_iff,
    List.mem_map]
  rfl

theorem returned_of_marked (h : IsMarked markers d) : returned markers d = .type d.typeName := by
  rw [returned, if_pos (fluentMarkerState_isEnabled_iff.mpr h)]

theorem returned_of_not_marked (h : ¬ IsMarked markers d) : returned markers d = .void := by
  rw [returned, if_neg (mt fluentMarkerState_isEnabled_iff.mp h)]

/-! ## The setters of a class -/

/-- An eligible field gives the name `a` before any eligible field gives the name `b`. -/
def NamedBefore (d : Declaration) (fields : List FieldEntry) (a b : String) : Prop :=
  ∃ before f after, fields = before ++ f :: after ∧ Eligible d f ∧ setterName f.name = a
    ∧ ∀ g ∈ before, Eligible d g → setterName g.name ≠ b

/-- A class with some fields becomes another one by the setters that are added to it. -/
structure AddsMissing (markers : List String) (d : Declaration) (fields : List FieldEntry)
    (d' : Declaration) (added : List Method) : Prop where
  /-- They stand behind the methods of the class, and nothing else is changed. -/
  eq_append : d' = { d with methods := d.methods ++ added }
  /-- No two of them have the same name. -/
  nodup : (added.map (·.name)).Nodup
  /-- Their names are those that eligible fields give and no method of the class has. -/
  mem_iff : ∀ name, name ∈ added.map (·.name) ↔
    (∃ f ∈ fields, Eligible d f ∧ setterName f.name = name) ∧ ∀ m ∈ d.methods, m.name ≠ name
  /-- They stand in the order of the first eligible fields that give their names. -/
  ordered : (added.map (·.name)).Pairwise (NamedBefore d fields)
  /-- Each has one parameter. -/
  parameterCount_eq : ∀ m ∈ added, m.parameterCount = 1
  /-- Each returns the class if a fluent marker is switched on. -/
  returns_class : IsMarked markers d → ∀ m ∈ added, m.returnType = .type d.typeName
  /-- Each returns nothing otherwise. -/
  returns_nothing : ¬ IsMarked markers d → ∀ m ∈ added, m.returnType = .void

theorem map_name_setterOf (result : ReturnType) (fields : List FieldEntry) :
    (fields.map (setterOf result)).map (·.name) = names fields := by
  rw [List.map_map]
  rfl

/-- Setters are added for fields of the class that are eligible. -/
theorem eligible_of_mem_added (hf : f ∈ added d fields) : f ∈ fields ∧ Eligible d f := by
  obtain ⟨hmem, heligible⟩ := List.mem_filter.mp (missing_sublist.mem hf)
  exact ⟨hmem, isEligible_iff.mp heligible⟩

/-- **The names of the added setters** are those that eligible fields give and no method has. -/
theorem mem_names_added_iff {name : String} :
    name ∈ names (added d fields) ↔
      (∃ f ∈ fields, Eligible d f ∧ setterName f.name = name)
        ∧ ∀ m ∈ d.methods, m.name ≠ name := by
  have hgiven : name ∈ names (fields.filter (isEligible (asksForAll d)))
      ↔ ∃ f ∈ fields, Eligible d f ∧ setterName f.name = name := by
    simp only [names, List.mem_map, List.mem_filter, isEligible_iff, and_assoc]
  have hfree : name ∉ d.methods.map (·.name) ↔ ∀ m ∈ d.methods, m.name ≠ name := by
    simp only [List.mem_map, not_exists, not_and, ne_eq]
  rw [added, mem_names_missing_iff, hgiven, hfree]

/-- The order among the eligible fields is the order among all fields. -/
theorem GivesBefore.namedBefore {f g : FieldEntry}
    (h : GivesBefore (fields.filter (isEligible (asksForAll d))) f g) :
    NamedBefore d fields (setterName f.name) (setterName g.name) := by
  obtain ⟨before, after, hsplit, hbefore⟩ := h
  obtain ⟨front, back, rfl, hfront, hback⟩ := List.filter_eq_append_iff.mp hsplit
  obtain ⟨skipped, rest, rfl, hskipped, hf, -⟩ := List.filter_eq_cons_iff.mp hback
  refine ⟨front ++ skipped, f, rest, by simp, isEligible_iff.mp hf, rfl, fun x hx hxe => ?_⟩
  rcases List.mem_append.mp hx with hx | hx
  · refine hbefore x (List.mem_append_left _ ?_)
    rw [← hfront]
    exact List.mem_filter.mpr ⟨hx, isEligible_iff.mpr hxe⟩
  · exact absurd (isEligible_iff.mpr hxe) (hskipped x hx)

/-- **The pass over the fields adds exactly the missing setters of a class.** -/
theorem addsMissing_complete {s : Synthesis} (hon : s.isOn = true) (hclass : d.kind = .classType)
    (fields : List FieldEntry) :
    AddsMissing s.fluentMarkers d fields (s.complete d fields)
      ((added d fields).map (setterOf (returned s.fluentMarkers d))) where
  eq_append := complete_of_class hon hclass fields
  nodup := by
    rw [map_name_setterOf]
    exact nodup_names_missing
  mem_iff name := by
    rw [map_name_setterOf]
    exact mem_names_added_iff
  ordered := by
    rw [map_name_setterOf, names, List.pairwise_map]
    exact pairwise_missing.imp fun h => h.namedBefore
  parameterCount_eq := by
    intro m hm
    obtain ⟨f, -, rfl⟩ := List.mem_map.mp hm
    rfl
  returns_class := by
    intro hmarked m hm
    obtain ⟨f, -, rfl⟩ := List.mem_map.mp hm
    exact returned_of_marked hmarked
  returns_nothing := by
    intro hnot m hm
    obtain ⟨f, -, rfl⟩ := List.mem_map.mp hm
    exact returned_of_not_marked hnot

/-- Afterwards every eligible field has its setter. -/
theorem AddsMissing.hasMethod {d' : Declaration} {setters : List Method}
    (h : AddsMissing markers d fields d' setters) {f : FieldEntry} (hf : f ∈ fields)
    (hfe : Eligible d f) : d'.hasMethod (setterName f.name) = true := by
  rw [h.eq_append, hasMethod_iff, List.map_append, List.mem_append]
  by_cases htaken : setterName f.name ∈ d.methods.map (·.name)
  · exact .inl htaken
  · refine .inr ((h.mem_iff _).mpr ⟨⟨f, hf, hfe, rfl⟩, fun m hm heq => ?_⟩)
    exact htaken (heq ▸ List.mem_map_of_mem hm)

/-- **A second pass adds nothing.** -/
theorem complete_complete (s : Synthesis) (d : Declaration) (fields : List FieldEntry) :
    s.complete (s.complete d fields) fields = s.complete d fields := by
  by_cases h : s.isOn = true ∧ d.kind = .classType
  · obtain ⟨hon, hclass⟩ := h
    have hfirst := addsMissing_complete hon hclass fields
    have hkind : (s.complete d fields).kind = .classType := by rw [hfirst.eq_append]; exact hclass
    have hsecond := addsMissing_complete hon hkind fields
    -- a name that were added now would be that of an eligible field, and each has its setter
    have hnone : (added (s.complete d fields) fields).map
        (setterOf (returned s.fluentMarkers (s.complete d fields))) = [] := by
      refine List.eq_nil_iff_forall_not_mem.mpr fun m hm => ?_
      obtain ⟨⟨f, hf, hfe, hname⟩, hfree⟩ := (hsecond.mem_iff m.name).mp (List.mem_map_of_mem hm)
      have hfe' : Eligible d f := by
        rw [hfirst.eq_append] at hfe
        exact ⟨hfe.notStatic, hfe.notFinal, hfe.asked⟩
      obtain ⟨m', hm', heq⟩ := List.mem_map.mp (hasMethod_iff.mp (hfirst.hasMethod hf hfe'))
      exact hfree m' hm' (heq.trans hname)
    rw [hsecond.eq_append, hnone, List.append_nil]
  · rw [complete_of_not h, complete_of_not h]

/-! ## Extraction with and without added setters -/

/-- **Exactly the missing setters are added.**  A class gets behind its methods a setter with one
    parameter for each name that an eligible field gives and no method has, once and in the order of
    the first such fields; they return the class if a fluent marker is switched on, and nothing
    otherwise.  Then every eligible field has its setter, and a second pass adds nothing.  From every
    tree the same declarations are extracted with added setters and without, but for these setters
    of its classes. -/
theorem missing_setters_are_added :
    (∀ (markers : List String) (d : Declaration) (fields : List FieldEntry), d.kind = .classType →
        (∃ setters, AddsMissing markers d fields (complete ⟨true, markers⟩ d fields) setters)
        ∧ (∀ f ∈ fields, Eligible d f →
            (complete ⟨true, markers⟩ d fields).hasMethod (setterName f.name) = true)
        ∧ complete ⟨true, markers⟩ (complete ⟨true, markers⟩ d fields) fields
            = complete ⟨true, markers⟩ d fields)
    ∧ ∀ (source : List Char) (markers : List String) (origin : Option String) (root : Node),
        (∀ w ∈ written source origin root, w.ListsFields)
        ∧ extract source ⟨false, markers⟩ origin root
            = (written source origin root).map (·.declaration)
        ∧ List.Forall₂
            (fun w d =>
              (w.declaration.kind = .classType →
                ∃ setters, AddsMissing markers w.declaration w.fields d setters)
              ∧ (w.declaration.kind ≠ .classType → d = w.declaration))
            (written source origin root) (extract source ⟨true, markers⟩ origin root) := by
  constructor
  · intro markers d fields hclass
    have hadds := addsMissing_complete (s := ⟨true, markers⟩) rfl hclass fields
    exact ⟨⟨_, hadds⟩, fun f hf hfe => hadds.hasMethod hf hfe, complete_complete _ d fields⟩
  · intro source markers origin root
    refine ⟨fun w hw => listsFields_of_mem_written hw, ?_, ?_⟩
    · rw [extract_eq_completed]
      refine List.map_congr_left fun w _ => ?_
      exact complete_of_not (fun h => Bool.false_ne_true h.1) w.fields
    · rw [extract_eq_completed, List.forall₂_map_right_iff, List.forall₂_same]
      intro w _
      constructor
      · intro hclass
        exact ⟨_, addsMissing_complete (s := ⟨true, markers⟩) rfl hclass w.fields⟩
      · intro hother
        exact complete_of_not (fun h => hother h.2) w.fields

/-- A class that asks for all setters and for chaining, with two setters of its own. -/
def markedOrder : Declaration :=
  { Declaration.ofClass "Order" with
    methods := [⟨"setId", 2, .void⟩, ⟨"settle", 0, .void⟩],
    annotations := [⟨"Data", []⟩, ⟨"Accessors", [("chain", .bool true)]⟩] }

/-- Its fields: one with a setter, a constant, two that give the same name, and one that only goes by
    a letter outside ASCII. -/
def markedOrderFields : List FieldEntry :=
  [⟨"id", {}⟩, ⟨"KEY", { isStatic := true, isFinal := true }⟩, ⟨"tag", {}⟩, ⟨"Tag", {}⟩, ⟨"été", {}⟩]

/-- The setter with two parameters stands for its field, the constant has none, and the two fields
    share one. -/
theorem setters_of_marked_order :
    markedOrder.kind = .classType
    ∧ (complete ⟨true, ["lombok.experimental.Accessors"]⟩ markedOrder markedOrderFields).methods
        = markedOrder.methods
          ++ [⟨"setTag", 1, .type ⟨"Order"⟩⟩, ⟨"setÉté", 1, .type ⟨"Order"⟩⟩]
    ∧ ∃ setters, AddsMissing ["lombok.experimental.Accessors"] markedOrder markedOrderFields
        (complete ⟨true, ["lombok.experimental.Accessors"]⟩ markedOrder markedOrderFields)
        setters := by
  have hclass : markedOrder.kind = .classType := rfl
  obtain ⟨hadds, -, -⟩ := missing_setters_are_added.1 ["lombok.experimental.Accessors"]
    markedOrder markedOrderFields hclass
  exact ⟨hclass, by decide +kernel, hadds⟩

end Synthesis

end BeanMapper.Java
