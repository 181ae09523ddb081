import BeanMapper.Proofs.Mapping.Generation
import Mathlib.Logic.Relation

/-!
# Chaining — when a target is built in one expression, whatever the order

    Two things lead to a chained snippet: a fluent marker that is switched on,
    or setters that all return the target.  Both are questions of membership:

    * `MarkerState.join_eq_enabled_iff` and `MarkerState.join_eq_absent_iff`
      say what the joint answer of any number of probes is, and these two
      answers decide the third one (`MarkerState.ext`);
    * `fluentMarkerState_eq_enabled_iff`, `fluentMarkerState_eq_absent_iff` and
      `hasOnlyFluentSetters_iff` turn the probes of all markers and the check
      of all setters into statements about single annotations and methods;
    * `Alike` keeps what these statements depend on, and every step of
      `Rearranges` keeps it (`Rearranges.alike`), so a run of such steps
      changes neither answer (`mode_follows_markers_and_setters`). -/

namespace BeanMapper

/-! ## Annotations and their first attributes -/

namespace Annotation

variable {a : Annotation} {key marker : String} {value : AttributeValue} {b : Bool}

/-- Of the attributes with a key, the first one has the value. -/
def FirstAttribute (a : Annotation) (key : String) (value : AttributeValue) : Prop :=
  ∃ before after, a.attributes = before ++ (key, value) :: after ∧ ∀ x ∈ before, x.1 ≠ key

/-- An annotation goes by the name of a marker: the names are equal if both have dots, and else
    their last segments are. -/
structure GoesBy (a : Annotation) (marker : String) : Prop where
  /-- Two qualified names are the same. -/
  qualified : '.' ∈ a.name.toList → '.' ∈ marker.toList → a.name = marker
  /-- Otherwise the last segments are the same. -/
  simple : ¬ ('.' ∈ a.name.toList ∧ '.' ∈ marker.toList) →
    Text.lastSegment a.name.toList = Text.lastSegment marker.toList

theorem attribute?_eq_some_iff : a.attribute? key = some value ↔ a.FirstAttribute key value := by
  rw [attribute?, List.lookup_eq_some_iff]
  constructor
  · rintro ⟨before, after, hsplit, hbefore⟩
    exact ⟨before, after, hsplit, fun x hx => (bne_iff_ne.mp (hbefore x hx)).symm⟩
  · rintro ⟨before, after, hsplit, hbefore⟩
    exact ⟨before, after, hsplit, fun x hx => bne_iff_ne.mpr (hbefore x hx).symm⟩

/-- A flag is read off the first attribute with its key, if that is a boolean literal. -/
theorem flag?_eq_some_iff : a.flag? key = some b ↔ a.FirstAttribute key (.bool b) := by
  rw [flag?, Option.bind_eq_some_iff]
  constructor
  · rintro ⟨value, hvalue, hbool⟩
    cases value with
    | bool b' =>
        cases hbool
        exact attribute?_eq_some_iff.mp hvalue
    | text s => exact nomatch hbool
  · intro h
    exact ⟨.bool b, attribute?_eq_some_iff.mpr h, rfl⟩

theorem matchesName_iff : a.matchesName marker = true ↔ a.GoesBy marker := by
  have hboth : (isQualified a.name && isQualified marker) = true
      ↔ '.' ∈ a.name.toList ∧ '.' ∈ marker.toList := by
    rw [Bool.and_eq_true, isQualified, isQualified, List.contains_iff_mem, List.contains_iff_mem]
  rw [matchesName, namesMatch]
  by_cases h : '.' ∈ a.name.toList ∧ '.' ∈ marker.toList
  · rw [if_pos (hboth.mpr h), beq_iff_eq]
    constructor
    · intro heq
      exact ⟨fun _ _ => heq, fun hnot => absurd h hnot⟩
    · intro hgoes
      exact hgoes.qualified h.1 h.2
  · rw [if_neg (mt hboth.mp h), beq_iff_eq, simpleNameOf, simpleNameOf, String.ofList_inj]
    constructor
    · intro heq
      exact ⟨fun hname hmarker => absurd ⟨hname, hmarker⟩ h, fun _ => heq⟩
    · intro hgoes
      exact hgoes.simple h

end Annotation

/-! ## The joint answer of probes -/

namespace MarkerState

variable {s t : MarkerState} {states : List MarkerState}

/-- A state is known if it is known whether it is enabled and whether it is absent. -/
theorem ext (henabled : s = .enabled ↔ t = .enabled) (habsent : s = .absent ↔ t = .absent) :
    s = t := by
  cases s <;> cases t <;> simp_all

theorem or_eq_enabled_iff : s.or t = .enabled ↔ s = .enabled ∨ t = .enabled := by
  cases s <;> cases t <;> decide

theorem or_eq_absent_iff : s.or t = .absent ↔ s = .absent ∧ t = .absent := by
  cases s <;> cases t <;> decide

/-- One state that is enabled enables all of them. -/
theorem foldl_or_eq_enabled_iff :
    states.foldl or s = .enabled ↔ s = .enabled ∨ .enabled ∈ states := by
  induction states generalizing s with
  | nil => simp
  | cons t states ih =>
      rw [List.foldl_cons, ih, or_eq_enabled_iff, List.mem_cons, eq_comm (a := .enabled) (b := t)]
      constructor
      · rintro ((h | h) | h)
        · exact .inl h
        · exact .inr (.inl h)
        · exact .inr (.inr h)
      · rintro (h | h | h)
        · exact .inl (.inl h)
        · exact .inl (.inr h)
        · exact .inr h

/-- Only states that are all absent leave a marker absent. -/
theorem foldl_or_eq_absent_iff :
    states.foldl or s = .absent ↔ s = .absent ∧ ∀ t ∈ states, t = .absent := by
  induction states generalizing s with
  | nil => simp
  | cons t states ih => rw [List.foldl_cons, ih, or_eq_absent_iff, List.forall_mem_cons, and_assoc]

/-- **One enabled probe is enough.** -/
theorem join_eq_enabled_iff : join states = .enabled ↔ .enabled ∈ states := by
  rw [join, foldl_or_eq_enabled_iff]
  exact or_iff_right (fun h => nomatch h)

/-- The joint answer is that there is no marker if that is the answer of every probe. -/
theorem join_eq_absent_iff : join states = .absent ↔ ∀ s ∈ states, s = .absent := by
  rw [join, foldl_or_eq_absent_iff]
  exact and_iff_right rfl

end MarkerState

/-! ## Probing a declaration -/

namespace Declaration

variable {d : Declaration} {marker key : String} {a : Annotation}

theorem mem_annotationsNamed_iff :
    a ∈ d.annotationsNamed marker ↔ a ∈ d.annotations ∧ a.GoesBy marker := by
  rw [annotationsNamed, List.mem_filter, Annotation.matchesName_iff]

/-- A marker is enabled by one annotation whose first attribute of the key is true. -/
theorem markerState_eq_enabled_iff :
    d.markerState marker key = .enabled ↔
      ∃ a ∈ d.annotations, a.GoesBy marker ∧ a.FirstAttribute key (.bool true) := by
  have hany : (d.annotationsNamed marker).any (·.flag? key == some true) = true
      ↔ ∃ a ∈ d.annotations, a.GoesBy marker ∧ a.FirstAttribute key (.bool true) := by
    simp only [List.any_eq_true, mem_annotationsNamed_iff, beq_iff_eq, Annotation.flag?_eq_some_iff,
      and_assoc]
  rw [← hany, markerState]
  cases d.annotationsNamed marker with
  | nil => simp
  | cons a found => by_cases h : (a :: found).any (·.flag? key == some true) = true <;> simp [h]

/-- A marker is absent if no annotation goes by its name. -/
theorem markerState_eq_absent_iff :
    d.markerState marker key = .absent ↔ ∀ a ∈ d.annotations, ¬ a.GoesBy marker := by
  have hnil : d.annotationsNamed marker = [] ↔ ∀ a ∈ d.annotations, ¬ a.GoesBy marker := by
    simp only [List.eq_nil_iff_forall_not_mem, mem_annotationsNamed_iff, not_and]
  rw [← hnil, markerState]
  cases d.annotationsNamed marker with
  | nil => simp
  | cons a found => by_cases h : (a :: found).any (·.flag? key == some true) = true <;> simp [h]

end Declaration

namespace Method

/-- A method returns a type if its return type can denote it. -/
theorem returns_iff {m : Method} {t : TypeName} :
    m.returns t = true
      ↔ ∃ returned, m.returnType = .type returned ∧ returned.refersTo t = true := by
  rw [returns]
  cases hreturn : m.returnType with
  | missing => simp [ReturnType.asType?]
  | void => simp [ReturnType.asType?]
  | type returned => simp [ReturnType.asType?]

end Method

namespace Mode

variable {d d' : Declaration} {markers markers' : List String}

/-- **A fluent marker is switched on** by the first attribute for it on one annotation. -/
theorem fluentMarkerState_eq_enabled_iff :
    fluentMarkerState d markers = .enabled ↔
      ∃ a ∈ d.annotations, ∃ marker ∈ markers,
        a.GoesBy marker ∧ a.FirstAttribute "chain" (.bool true) := by
  rw [fluentMarkerState, MarkerState.join_eq_enabled_iff, List.mem_map]
  simp only [Declaration.markerState_eq_enabled_iff]
  constructor
  · rintro ⟨marker, hmarker, a, ha, hgoes, hon⟩
    exact ⟨a, ha, marker, hmarker, hgoes, hon⟩
  · rintro ⟨a, ha, marker, hmarker, hgoes, hon⟩
    exact ⟨marker, hmarker, a, ha, hgoes, hon⟩

/-- All markers are absent if no annotation goes by the name of any. -/
theorem fluentMarkerState_eq_absent_iff :
    fluentMarkerState d markers = .absent ↔
      ∀ a ∈ d.annotations, ∀ marker ∈ markers, ¬ a.GoesBy marker := by
  rw [fluentMarkerState, MarkerState.join_eq_absent_iff, List.forall_mem_map]
  simp only [Declaration.markerState_eq_absent_iff]
  constructor
  · intro h a ha marker hmarker
    exact h marker hmarker a ha
  · intro h marker hmarker a ha
    exact h a ha marker hmarker

/-- **All setters return the target**, and there is one. -/
theorem hasOnlyFluentSetters_iff :
    hasOnlyFluentSetters d = true ↔
      (∃ m ∈ d.methods, m.isSetter = true)
        ∧ ∀ m ∈ d.methods, m.isSetter = true → m.returns d.typeName = true := by
  rw [hasOnlyFluentSetters, Declaration.setters, Bool.and_eq_true, Bool.not_eq_true',
    List.isEmpty_eq_false_iff_exists_mem, List.all_eq_true]
  simp only [List.mem_filter, and_imp]

/-- Calls are chained if a marker asks for it or all setters return the type. -/
theorem select_eq_chained_iff :
    select d markers = .chainedBuilder ↔
      fluentMarkerState d markers = .enabled ∨ hasOnlyFluentSetters d = true := by
  have hcondition : ((fluentMarkerState d markers).isEnabled || hasOnlyFluentSetters d) = true
      ↔ fluentMarkerState d markers = .enabled ∨ hasOnlyFluentSetters d = true := by
    rw [Bool.or_eq_true, MarkerState.isEnabled, beq_iff_eq]
  rw [← hcondition, select]
  cases ((fluentMarkerState d markers).isEnabled || hasOnlyFluentSetters d) <;> simp

/-! ## What the order leaves unchanged -/

/-- Two targets with their markers are alike for the choice of the mode. -/
structure Alike (d : Declaration) (markers : List String) (d' : Declaration)
    (markers' : List String) : Prop where
  /-- They have the same name. -/
  name_eq : d'.typeName = d.typeName
  /-- They have the same setters. -/
  mem_setters : ∀ m : Method, m.isSetter = true → (m ∈ d'.methods ↔ m ∈ d.methods)
  /-- They have the same annotations. -/
  mem_annotations : ∀ a, a ∈ d'.annotations ↔ a ∈ d.annotations
  /-- They are asked for the same markers. -/
  mem_markers : ∀ marker, marker ∈ markers' ↔ marker ∈ markers

namespace Alike

/-- Declarations that are alike have the same state of the markers. -/
theorem fluentMarkerState_eq (h : Alike d markers d' markers') :
    fluentMarkerState d' markers' = fluentMarkerState d markers := by
  apply MarkerState.ext
  · simp only [fluentMarkerState_eq_enabled_iff, h.mem_annotations, h.mem_markers]
  · simp only [fluentMarkerState_eq_absent_iff, h.mem_annotations, h.mem_markers]

/-- Declarations that are alike agree on whether all setters can be chained. -/
theorem hasOnlyFluentSetters_eq (h : Alike d markers d' markers') :
    hasOnlyFluentSetters d' = hasOnlyFluentSetters d := by
  rw [Bool.eq_iff_iff, hasOnlyFluentSetters_iff, hasOnlyFluentSetters_iff, h.name_eq]
  refine and_congr (exists_congr fun m => ?_) (forall_congr' fun m => ?_)
  · exact and_congr_left fun hm => h.mem_setters m hm
  · constructor
    · intro hall hmem hm
      exact hall ((h.mem_setters m hm).mpr hmem) hm
    · intro hall hmem hm
      exact hall ((h.mem_setters m hm).mp hmem) hm

/-- Declarations that are alike are written in the same mode. -/
theorem select_eq (h : Alike d markers d' markers') : select d' markers' = select d markers := by
  rw [select, select, h.fluentMarkerState_eq, h.hasOnlyFluentSetters_eq]

end Alike

/-- One way to rearrange a target and the markers that it is asked for. -/
inductive Rearranges : Declaration × List String → Declaration × List String → Prop where
  /-- The methods change places. -/
  | methods {d : Declaration} {markers : List String} {methods : List Method}
      (h : methods.Perm d.methods) : Rearranges (d, markers) ({ d with methods }, markers)
  /-- The annotations change places. -/
  | annotations {d : Declaration} {markers : List String} {annotations : List Annotation}
      (h : annotations.Perm d.annotations) :
      Rearranges (d, markers) ({ d with annotations }, markers)
  /-- The markers change places. -/
  | markers {d : Declaration} {markers markers' : List String} (h : markers'.Perm markers) :
      Rearranges (d, markers) (d, markers')
  /-- A marker is asked for once more. -/
  | repeated {d : Declaration} {before after : List String} {marker : String}
      (h : marker ∈ before ++ after) :
      Rearranges (d, before ++ after) (d, before ++ marker :: after)
  /-- A method is added that is no setter. -/
  | plain {d : Declaration} {markers : List String} {before after : List Method} {m : Method}
      (hmethods : d.methods = before ++ after) (hm : ¬ ∃ rest, m.name = "set" ++ rest) :
      Rearranges (d, markers) ({ d with methods := before ++ m :: after }, markers)

/-- Each way to rearrange leaves declaration and markers alike. -/
theorem Rearranges.alike {x y : Declaration × List String} (h : Rearranges x y) :
    Alike x.1 x.2 y.1 y.2 := by
  cases h with
  | methods h => exact ⟨rfl, fun m _ => h.mem_iff, fun _ => Iff.rfl, fun _ => Iff.rfl⟩
  | annotations h => exact ⟨rfl, fun _ _ => Iff.rfl, fun _ => h.mem_iff, fun _ => Iff.rfl⟩
  | markers h => exact ⟨rfl, fun _ _ => Iff.rfl, fun _ => Iff.rfl, fun _ => h.mem_iff⟩
  | repeated h =>
      refine ⟨rfl, fun _ _ => Iff.rfl, fun _ => Iff.rfl, fun other => ?_⟩
      rw [List.perm_middle.mem_iff, List.mem_cons]
      exact or_iff_right_of_imp fun heq => heq ▸ h
  | plain hmethods hm =>
      refine ⟨rfl, fun other hother => ?_, fun _ => Iff.rfl, fun _ => Iff.rfl⟩
      -- the added method is not among those that are asked about
      rw [hmethods, List.perm_middle.mem_iff, List.mem_cons]
      exact or_iff_right fun heq => hm (Method.isSetter_iff.mp (heq ▸ hother))

/-- **What rearranging leaves unchanged**, step after step. -/
theorem unchanged_of_rearranged {x y : Declaration × List String}
    (h : Relation.ReflTransGen Rearranges x y) :
    select y.1 y.2 = select x.1 x.2 ∧ fluentMarkerState y.1 y.2 = fluentMarkerState x.1 x.2 := by
  induction h with
  | refl => exact ⟨rfl, rfl⟩
  | tail _ hstep ih =>
      have halike := hstep.alike
      exact ⟨halike.select_eq.trans ih.1, halike.fluentMarkerState_eq.trans ih.2⟩

/-- **The mode follows the markers and the setters, in any order.**  A target is built in one
    expression exactly if one of its annotations goes by the name of a fluent marker and has its
    first `chain` attribute switched on, or if it has setters and the return type of each of them
    can denote it.  This answer and the joint answer of the markers stay the same however often
    the methods, the annotations and the markers change places, markers are asked for again, and
    methods are added that are no setters. -/
theorem mode_follows_markers_and_setters (d : Declaration) (markers : List String) :
    (select d markers = .chainedBuilder ↔
      (∃ a ∈ d.annotations, ∃ marker ∈ markers,
          a.GoesBy marker ∧ a.FirstAttribute "chain" (.bool true))
        ∨ ((∃ m ∈ d.methods, ∃ rest, m.name = "set" ++ rest)
          ∧ ∀ m ∈ d.methods, (∃ rest, m.name = "set" ++ rest) →
              ∃ returned, m.returnType = .type returned ∧ returned.refersTo d.typeName = true))
    ∧ ∀ d' markers', Relation.ReflTransGen Rearranges (d, markers) (d', markers') →
        select d' markers' = select d markers
          ∧ fluentMarkerState d' markers' = fluentMarkerState d markers := by
  constructor
  · rw [select_eq_chained_iff, fluentMarkerState_eq_enabled_iff, hasOnlyFluentSetters_iff]
    simp only [Method.isSetter_iff, Method.returns_iff]
  · intro d' markers' h
    exact unchanged_of_rearranged h

/-- A target with a setter that returns nothing, and with a fluent marker twice: switched off, and
    switched on before it is switched off. -/
def twiceMarked : Declaration :=
  { Declaration.ofClass "OrderDTO" with
    methods := [⟨"setTag", 1, .void⟩],
    annotations := [⟨"Accessors", [("chain", .bool false)]⟩,
      ⟨"lombok.Accessors", [("chain", .bool true), ("chain", .bool false)]⟩] }

/-- The same target with its annotations the other way round and a getter before its setter. -/
def twiceMarkedAgain : Declaration :=
  { Declaration.ofClass "OrderDTO" with
    methods := [⟨"getTag", 0, .type ⟨"String"⟩⟩, ⟨"setTag", 1, .void⟩],
    annotations := twiceMarked.annotations.reverse }

/-- The annotations change places, the marker is asked for again, and a getter is added: the target
    is built in one expression before and after. -/
theorem mode_of_twice_marked :
    Relation.ReflTransGen Rearranges (twiceMarked, ["Accessors"])
        (twiceMarkedAgain, ["Accessors", "Accessors"])
      ∧ select twiceMarked ["Accessors"] = .chainedBuilder
      ∧ select twiceMarkedAgain ["Accessors", "Accessors"] = .chainedBuilder := by
  have hannotations (markers : List String) : Rearranges (twiceMarked, markers)
      ({ twiceMarked with annotations := twiceMarked.annotations.reverse }, markers) :=
    .annotations (List.reverse_perm _)
  have hmarkers (d : Declaration) : Rearranges (d, ["Accessors"]) (d, ["Accessors", "Accessors"]) :=
    @Rearranges.repeated d [] ["Accessors"] "Accessors" (by simp)
  have hplain (markers : List String) : Rearranges
      ({ twiceMarked with annotations := twiceMarked.annotations.reverse }, markers)
      (twiceMarkedAgain, markers) :=
    @Rearranges.plain _ markers [] _ ⟨"getTag", 0, .type ⟨"String"⟩⟩ rfl
      (mt Method.isSetter_iff.mpr (by decide))
  have hrearranged := ((Relation.ReflTransGen.single (hannotations ["Accessors"])).tail
    (hmarkers _)).tail (hplain _)
  have hchained : select twiceMarked ["Accessors"] = .chainedBuilder := by decide +kernel
  obtain ⟨-, hsame⟩ := mode_follows_markers_and_setters twiceMarked ["Accessors"]
  exact ⟨hrearranged, hchained, (hsame _ _ hrearranged).1.trans hchained⟩

end Mode

end BeanMapper
