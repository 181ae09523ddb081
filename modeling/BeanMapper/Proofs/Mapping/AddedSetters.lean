import BeanMapper.Project
import BeanMapper.Proofs.Java.Synthesis
import BeanMapper.Proofs.Names.Suffixes
import BeanMapper.Proofs.Unicode.Case
import Mathlib.Data.List.Nodup

/-! # Added setters — they find their fields, and the markers decide on chaining

    A setter that was added to a class is mapped like any other one, by its
    name and its return type alone.

    * `setterKey?_of_setterName` says that its key is that of the field it was
      made for, although the name of the field was capitalized on the way, and
      `matchOf_setterOf` that it is then given a field of this name;
    * `mem_map_name_added_iff` says for which fields setters are added to a
      class, where a source keeps their names apart, and
      `added_setters_find_their_fields` that **each of them is given the field
      of the name it was made for**;
    * `returnType_of_setter` says that a class without setters of its own has
      none but added ones, which return the class exactly if a marker is
      switched on; `chained_exactly_if_marked`: **the mode of such a class
      follows its markers**, and a chained snippet calls nothing that returns
      another type. -/

namespace BeanMapper.Java.Synthesis

variable {name : String} {m : Method} {source d : Declaration} {f : FieldEntry}
  {fields : List FieldEntry}

/-! ## Keys -/

/-- A name begins with an ASCII character. -/
def BeginsAscii (name : String) : Prop :=
  ∃ c rest, c.toNat < 128 ∧ name = String.ofList (c :: rest)

/-- **A setter has the key of the field that its name was made from.** -/
theorem setterKey?_of_setterName (hascii : BeginsAscii name) (hname : m.name = setterName name) :
    m.setterKey? = some (lowered name) := by
  obtain ⟨c, rest, hc, rfl⟩ := hascii
  refine Method.setterKey?_eq_some_iff.mpr ⟨_, hname, ?_⟩
  rw [lowered, lowered, String.toList_ofList, String.toList_ofList, Unicode.lower_capitalize hc]

/-! ## Fields -/

/-- A source has fields with the names of some fields, and no two of its fields share a key. -/
structure HasFields (source : Declaration) (fields : List FieldEntry) : Prop where
  has : ∀ f ∈ fields, ∃ g ∈ source.fields, g.name = f.name
  distinct : (source.fields.map fun g => lowered g.name).Nodup

namespace HasFields

/-- Names of fields with one key are the same. -/
theorem eq_of_lowered_eq (h : HasFields source fields) {f g : FieldEntry} (hf : f ∈ fields)
    (hg : g ∈ fields) (hkey : lowered f.name = lowered g.name) : f.name = g.name := by
  obtain ⟨x, hx, hxname⟩ := h.has f hf
  obtain ⟨y, hy, hyname⟩ := h.has g hg
  have hxy : x = y := by
    refine List.inj_on_of_nodup_map h.distinct hx hy ?_
    rw [hxname, hyname, hkey]
  rw [← hxname, ← hyname, hxy]

/-- The field under the key of a name is the one of that name. -/
theorem lastWithKey? (h : HasFields source fields) (hf : f ∈ fields) :
    (BeanMapper.lastWithKey? source.fields (lowered f.name)).map (·.name) = some f.name := by
  obtain ⟨g, hg, hname⟩ := h.has f hf
  have hlast : LastWithKey source.fields (lowered f.name) g :=
    (lastWithKey_iff_mem h.distinct).mpr ⟨hg, by rw [hname]⟩
  rw [lastWithKey?_eq_some_iff.mpr hlast, Option.map_some, hname]

end HasFields

/-- **A setter is given the field of the name that its own name was made from.** -/
theorem matchOf_setterOf (h : HasFields source fields) (hf : f ∈ fields)
    (hascii : BeginsAscii f.name) (result : ReturnType) :
    matchOf source (setterOf result f) = some ⟨setterName f.name, some f.name⟩ := by
  rw [matchOf, setterKey?_of_setterName hascii rfl, Option.map_some, h.lastWithKey? hf]
  rfl

/-! ## The fields whose setters are added -/

/-- Setters are added for the eligible fields whose setter no method is, where no two of these
    fields share a key. -/
theorem mem_map_name_added_iff (h : HasFields source fields)
    (hascii : ∀ f ∈ fields, Eligible d f → BeginsAscii f.name) :
    name ∈ (added d fields).map (·.name) ↔
      (∃ f ∈ fields, Eligible d f ∧ f.name = name)
        ∧ ∀ m ∈ d.methods, m.name ≠ setterName name := by
  constructor
  · intro hname
    obtain ⟨f, hf, rfl⟩ := List.mem_map.mp hname
    obtain ⟨hmem, heligible⟩ := eligible_of_mem_added hf
    exact ⟨⟨f, hmem, heligible, rfl⟩, (mem_names_added_iff.mp (List.mem_map_of_mem hf)).2⟩
  · rintro ⟨⟨f, hf, heligible, rfl⟩, hfree⟩
    -- the setter of that name may have been added for another field, which then has the same key
    have hadded : setterName f.name ∈ names (added d fields) :=
      mem_names_added_iff.mpr ⟨⟨f, hf, heligible, rfl⟩, hfree⟩
    obtain ⟨g, hg, heq⟩ := List.mem_map.mp hadded
    obtain ⟨hgmem, hge⟩ := eligible_of_mem_added hg
    have hgkey : (setterOf .void g).setterKey? = some (lowered g.name) :=
      setterKey?_of_setterName (hascii g hgmem hge) rfl
    have hfkey : (setterOf .void g).setterKey? = some (lowered f.name) :=
      setterKey?_of_setterName (hascii f hf heligible) heq
    rw [← h.eq_of_lowered_eq hgmem hf (Option.some.inj (hgkey.symm.trans hfkey))]
    exact List.mem_map_of_mem hg

/-- The matches of a completed class are those of the class and one for each added setter. -/
theorem matchSetters_complete {s : Synthesis} (hon : s.isOn = true) (hclass : d.kind = .classType)
    (h : HasFields source fields) (hascii : ∀ f ∈ fields, Eligible d f → BeginsAscii f.name) :
    matchSetters (s.complete d fields) source
      = matchSetters d source
        ++ ((added d fields).map (·.name)).map fun name => ⟨setterName name, some name⟩ := by
  rw [matchSetters_eq_filterMap, matchSetters_eq_filterMap, complete_of_class hon hclass,
    List.filterMap_append, List.map_map, List.filterMap_map]
  refine congrArg _ ?_
  rw [← List.filterMap_eq_map]
  refine List.filterMap_congr fun f hf => ?_
  obtain ⟨hmem, heligible⟩ := eligible_of_mem_added hf
  exact matchOf_setterOf h hmem (hascii f hmem heligible) _

/-- **Added setters find their fields.**  The key of a setter whose name is made from that of a field
    is the key of the field, if the latter begins with an ASCII character, whatever follows.  So if
    this holds for the eligible fields of a class, and a source has fields with all names of the
    class and no two with one key, then each setter that extraction adds to the class is matched with
    the field of the name that it was made for, and none is left without a field. -/
theorem added_setters_find_their_fields :
    (∀ (c : Char) (rest : List Char), c.toNat < 128 →
      ∀ (count : UInt64) (result : ReturnType) (type : TypeName),
        (⟨setterName (String.ofList (c :: rest)), count, result⟩ : Method).setterKey?
          = some (⟨String.ofList (c :: rest), type⟩ : Field).matchKey)
    ∧ ∀ (text : List Char) (markers : List String) (origin : Option String) (root : Node),
        List.Forall₂
          (fun w d =>
            w.declaration.kind = .classType →
            (∀ f ∈ w.fields, Eligible w.declaration f → BeginsAscii f.name) →
            ∀ source : Declaration, HasFields source w.fields →
              ∃ names : List String,
                names.Nodup
                ∧ (∀ name, name ∈ names ↔
                    (∃ f ∈ w.fields, Eligible w.declaration f ∧ f.name = name)
                      ∧ ∀ m ∈ w.declaration.methods, m.name ≠ setterName name)
                ∧ d.methods.map (·.name)
                    = w.declaration.methods.map (·.name) ++ names.map setterName
                ∧ matchSetters d source
                    = matchSetters w.declaration source
                      ++ names.map fun name => ⟨setterName name, some name⟩)
          (written text origin root) (extract text ⟨true, markers⟩ origin root) := by
  constructor
  · intro c rest hc count result type
    exact setterKey?_of_setterName ⟨c, rest, hc, rfl⟩ rfl
  · intro text markers origin root
    rw [extract_eq_completed, List.forall₂_map_right_iff, List.forall₂_same]
    intro w _ hclass hascii source hsource
    refine ⟨(added w.declaration w.fields).map (·.name), ?_, ?_, ?_, ?_⟩
    · have hnodup : (((added w.declaration w.fields).map (·.name)).map setterName).Nodup := by
        rw [List.map_map]
        exact nodup_names_missing
      exact hnodup.of_map setterName
    · intro name
      exact mem_map_name_added_iff hsource hascii
    · rw [Written.completed, complete_of_class rfl hclass, List.map_append, map_name_setterOf,
        List.map_map]
      rfl
    · exact matchSetters_complete rfl hclass hsource hascii

/-- A class with a field that ends in a sigma. -/
def wordText : String := "@Data class Word\x7bint id;int xΣ;void setId(int a,int b)\x7b\x7d\x7d"

/-- A source with the fields of that class, the other way round. -/
def wordSource : Declaration := ((Declaration.ofClass "Source").withField "xΣ").withField "id"

/-- The sigma is final behind the capital as well, so the setter that was added finds its field. -/
theorem matches_of_word_with_sigma :
    ∃ root w d, parse? wordText = some root
      ∧ written wordText.toList none root = [w] ∧ extract wordText.toList ⟨true, []⟩ none root = [d]
      ∧ w.declaration.kind = .classType
      ∧ (∀ f ∈ w.fields, Eligible w.declaration f → BeginsAscii f.name)
      ∧ HasFields wordSource w.fields
      ∧ matchSetters d wordSource = [⟨"setId", some "id"⟩, ⟨"setXΣ", some "xΣ"⟩]
      ∧ ∃ names : List String,
          d.methods.map (·.name) = w.declaration.methods.map (·.name) ++ names.map setterName
          ∧ matchSetters d wordSource
              = matchSetters w.declaration wordSource
                ++ names.map fun name => ⟨setterName name, some name⟩ := by
  have hparsed : (parse? wordText).map (fun root =>
      ((written wordText.toList none root).map fun w =>
          (w.declaration.kind, w.fields.map (·.name)),
        (extract wordText.toList ⟨true, []⟩ none root).map (matchSetters · wordSource)))
      = some ([(.classType, ["id", "xΣ"])],
          [[⟨"setId", some "id"⟩, ⟨"setXΣ", some "xΣ"⟩]]) := by
    decide +kernel
  obtain ⟨root, hroot, hparts⟩ := Option.map_eq_some_iff.mp hparsed
  obtain ⟨hwritten, hmatched⟩ := Prod.mk.inj hparts
  obtain ⟨w, hw, hparts⟩ := List.map_eq_singleton_iff.mp hwritten
  obtain ⟨hkind, hnames⟩ := Prod.mk.inj hparts
  obtain ⟨d, hd, hmatched⟩ := List.map_eq_singleton_iff.mp hmatched
  have hfields : ∀ f ∈ w.fields, f.name = "id" ∨ f.name = "xΣ" := by
    intro f hf
    have hmem : f.name ∈ w.fields.map (·.name) := List.mem_map_of_mem hf
    rw [hnames] at hmem
    simpa using hmem
  have hascii : ∀ f ∈ w.fields, Eligible w.declaration f → BeginsAscii f.name := by
    intro f hf _
    rcases hfields f hf with hname | hname
    · exact ⟨'i', ['d'], by decide, hname⟩
    · exact ⟨'x', ['Σ'], by decide, hname⟩
  have hsource : HasFields wordSource w.fields := by
    refine ⟨fun f hf => ?_, by decide +kernel⟩
    rcases hfields f hf with hname | hname
    · exact ⟨⟨"id", ⟨"Source"⟩⟩, by decide, hname.symm⟩
    · exact ⟨⟨"xΣ", ⟨"Source"⟩⟩, by decide, hname.symm⟩
  have hall := added_setters_find_their_fields.2 wordText.toList [] none root
  rw [hw, hd] at hall
  cases hall with
  | cons hfound _ =>
      obtain ⟨names, -, -, hmethods, hmatches⟩ := hfound hkind hascii wordSource hsource
      exact ⟨root, w, d, hroot, hw, hd, hkind, hascii, hsource, hmatched, names, hmethods,
        hmatches⟩

/-! ## Chaining -/

section Chaining

variable {s : Synthesis} {w : Written} {markers : List String}

theorem typeName_completed : (w.completed s).typeName = w.declaration.typeName := by
  obtain ⟨added, heq, -⟩ := complete_eq s w.declaration w.fields
  rw [Written.completed, heq]

/-- The markers of a class do not depend on its methods. -/
theorem isMarked_completed_iff :
    IsMarked markers (w.completed s) ↔ IsMarked markers w.declaration := by
  obtain ⟨added, heq, -⟩ := complete_eq s w.declaration w.fields
  rw [Written.completed, heq]
  rfl

/-- **A type without setters of its own has none but added ones**, and all of them return what the
    markers say. -/
theorem returnType_of_setter (hown : ∀ m ∈ w.declaration.methods, ¬ m.isSetter = true)
    (hm : m ∈ (w.completed s).methods) (hsetter : m.isSetter = true) :
    m.returnType = returned s.fluentMarkers w.declaration := by
  by_cases h : s.isOn = true ∧ w.declaration.kind = .classType
  · rw [Written.completed, complete_of_class h.1 h.2] at hm
    rcases List.mem_append.mp hm with hm | hm
    · exact absurd hsetter (hown m hm)
    · obtain ⟨f, -, rfl⟩ := List.mem_map.mp hm
      rfl
  · rw [Written.completed, complete_of_not h] at hm
    exact absurd hsetter (hown m hm)

/-- Only a marker makes such a type chained: without one, a setter that was added returns nothing. -/
theorem select_completed_iff (hown : ∀ m ∈ w.declaration.methods, ¬ m.isSetter = true) :
    Mode.select (w.completed s) s.fluentMarkers = .chainedBuilder
      ↔ IsMarked s.fluentMarkers w.declaration := by
  rw [Mode.select_eq_chained_iff, ← isMarked_completed_iff (s := s),
    ← fluentMarkerState_isEnabled_iff, MarkerState.isEnabled, beq_iff_eq]
  refine or_iff_left_of_imp fun hfluent => ?_
  obtain ⟨⟨m, hm, hsetter⟩, hall⟩ := Mode.hasOnlyFluentSetters_iff.mp hfluent
  obtain ⟨type, htype, -⟩ := Method.returns_iff.mp (hall m hm hsetter)
  by_contra hnot
  have hvoid : returned s.fluentMarkers w.declaration = .void := by
    refine returned_of_not_marked fun hmarked => hnot ?_
    have hmarked' : IsMarked s.fluentMarkers (w.completed s) := isMarked_completed_iff.mpr hmarked
    exact beq_iff_eq.mp (fluentMarkerState_isEnabled_iff.mpr hmarked')
  rw [returnType_of_setter hown hm hsetter, hvoid] at htype
  cases htype

/-- What a match calls is a setter of the target. -/
theorem exists_setter_of_match {target source : Declaration} {x : SetterMatch}
    (hx : x ∈ matchSetters target source) :
    ∃ m ∈ target.methods, m.name = x.setter ∧ m.isSetter = true := by
  rw [matchSetters_eq_filterMap] at hx
  obtain ⟨m, hm, hmatch⟩ := List.mem_filterMap.mp hx
  by_cases hsetter : m.isSetter = true
  · obtain ⟨y, hy, htakes⟩ := exists_matchOf_takes source hsetter
    obtain rfl : y = x := Option.some.inj (hy.symm.trans hmatch)
    exact ⟨m, hm, htakes.setter_eq.symm, hsetter⟩
  · rw [matchOf_eq_none hsetter] at hmatch
    exact nomatch hmatch

/-- **The mode of a type without setters of its own follows its markers.**  Whether setters are added
    to it or not, it is built in one expression exactly if a fluent marker is switched on; and then
    all methods that go by the name of a setter in the snippet return a type that can denote it. -/
theorem chained_exactly_if_marked (text : List Char) (config : Config) (origin : Option String)
    (root : Node) :
    List.Forall₂
      (fun w d =>
        (∀ m ∈ w.declaration.methods, ¬ ∃ rest, m.name = "set" ++ rest) →
          (Mode.select d config.fluentMarkers = .chainedBuilder
            ↔ (Mode.fluentMarkerState d config.fluentMarkers).isEnabled = true)
          ∧ ∀ source, (generateFor config d source).mode = .chainedBuilder →
              ∀ x ∈ (generateFor config d source).matched,
                (∃ m ∈ d.methods, m.name = x.setter)
                ∧ ∀ m ∈ d.methods, m.name = x.setter →
                    ∃ type, m.returnType = .type type ∧ type.refersTo d.typeName = true)
      (written text origin root) (extract text (Project.synthesisOf config) origin root) := by
  rw [extract_eq_completed, List.forall₂_map_right_iff, List.forall₂_same]
  intro w _ hplain
  have hown : ∀ m ∈ w.declaration.methods, ¬ m.isSetter = true :=
    fun m hm => mt Method.isSetter_iff.mp (hplain m hm)
  have hselect := select_completed_iff (s := Project.synthesisOf config) hown
  constructor
  · rw [fluentMarkerState_isEnabled_iff, isMarked_completed_iff]
    exact hselect
  · intro source hmode x hx
    obtain ⟨m, hm, hname, hsetter⟩ := exists_setter_of_match hx
    refine ⟨⟨m, hm, hname⟩, fun m' hm' hname' => ?_⟩
    -- a method of the same name is a setter as well
    have hsetter' : m'.isSetter = true := by
      rw [Method.isSetter_iff, hname', ← hname]
      exact Method.isSetter_iff.mp hsetter
    refine ⟨w.declaration.typeName, ?_, ?_⟩
    · rw [returnType_of_setter hown hm' hsetter']
      exact returned_of_marked (hselect.mp hmode)
    · rw [typeName_completed]
      exact TypeName.refersTo_iff.mpr (.inl w.declaration.typeName.self_mem_suffixes)

/-- A class that asks for all setters, for which a fluent marker is switched on. -/
def markedText : String := "@Data @Accessors(chain=true)class Dto\x7bint id;int x()\x7b\x7d\x7d"

/-- The class has no setter of its own; it is chained, and its added setter returns it. -/
theorem mode_of_marked_class :
    ∃ root w d, parse? markedText = some root
      ∧ written markedText.toList none root = [w]
      ∧ extract markedText.toList (Project.synthesisOf .default) none root = [d]
      ∧ (∀ m ∈ w.declaration.methods, ¬ ∃ rest, m.name = "set" ++ rest)
      ∧ d.methods.map (·.name) = ["x", "setId"]
      ∧ Mode.select d Config.default.fluentMarkers = .chainedBuilder
      ∧ ∀ m ∈ d.methods, m.name = "setId" →
          ∃ type, m.returnType = .type type ∧ type.refersTo d.typeName = true := by
  have hparsed : (parse? markedText).map (fun root =>
      ((written markedText.toList none root).map (fun w => w.declaration.methods.map (·.name)),
        (extract markedText.toList (Project.synthesisOf .default) none root).map (fun d =>
          (d.methods.map (·.name),
            (Mode.fluentMarkerState d Config.default.fluentMarkers).isEnabled,
            (matchSetters d d).map (·.setter)))))
      = some ([["x"]], [(["x", "setId"], true, ["setId"])]) := by
    decide +kernel
  obtain ⟨root, hroot, hparts⟩ := Option.map_eq_some_iff.mp hparsed
  obtain ⟨hwritten, hextracted⟩ := Prod.mk.inj hparts
  obtain ⟨w, hw, hnames⟩ := List.map_eq_singleton_iff.mp hwritten
  obtain ⟨d, hd, hparts⟩ := List.map_eq_singleton_iff.mp hextracted
  obtain ⟨hmethods, hparts⟩ := Prod.mk.inj hparts
  obtain ⟨henabled, hcalled⟩ := Prod.mk.inj hparts
  have hplain : ∀ m ∈ w.declaration.methods, ¬ ∃ rest, m.name = "set" ++ rest := by
    intro m hm
    have hmem : m.name ∈ w.declaration.methods.map (·.name) := List.mem_map_of_mem hm
    rw [hnames, List.mem_singleton] at hmem
    rw [← Method.isSetter_iff, Method.isSetter_eq_startsWith, hmem]
    decide +kernel
  have hall := chained_exactly_if_marked markedText.toList .default none root
  rw [hw, hd] at hall
  cases hall with
  | cons hfollows _ =>
      obtain ⟨hmode, hreturns⟩ := hfollows hplain
      have hchained := hmode.mpr henabled
      refine ⟨root, w, d, hroot, hw, hd, hplain, hmethods, hchained, fun m hm hname => ?_⟩
      -- the only setter that the snippet for the class calls is the added one
      obtain ⟨x, hx, hxname⟩ := List.mem_map.mp (hcalled ▸ List.mem_singleton_self "setId")
      exact (hreturns d hchained x hx).2 m hm (hname.trans hxname.symm)

end Chaining

end BeanMapper.Java.Synthesis
