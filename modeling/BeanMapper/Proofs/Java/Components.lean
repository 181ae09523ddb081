import BeanMapper.Proofs.Java.Enclosing
import BeanMapper.Proofs.Java.Extraction
import BeanMapper.Proofs.Java.Trees

/-!
# Components — which components of a record are its fields

    A record has one field for each of its components, and the last of these may
    take any number of values.  Such a component is written like a parameter of
    that sort, with its name in a declarator of its own, and a method counts it
    among its parameters.  The fields of a record are taken from the ordinary
    components only:

    * `componentNodes_eq` says so of the outline, which the fields follow;
    * `listsComponents_iff` compares this with one field for each component: the
      lists are as long as each other exactly if no component takes any number
      of values;
    * `record_components_are_fields_iff` says it of the record declarations in
      every shaped tree, as those of all texts are. -/

namespace BeanMapper.Java

/-! ## Components -/

/-- The components of a record: its parameters, a last one that takes any number of values among
    them. -/
def recordComponents (n : Node) : List Node :=
  match n.child? .parameters with
  | some parameters => parameters.children.filter isParameter
  | none => []

/-- The name of a component; one that takes any number of values has it in a declarator. -/
def componentName? (source : List Char) (c : Node) : Option String :=
  if c.kind == .spreadParameter then (c.childOfKind? .variableDeclarator).bind (ownName? source)
  else ownName? source c

/-- The parts in the body of a type that are fields of that type. -/
def bodyFieldNodes (n : Node) : List Node := (membersOf? (bodyOf? n)).flatMap fieldNodes

/-- The fields of a declaration are one for each component of a record, in their order and by their
    names, and behind them those that are declared in its body. -/
def ListsComponents (source : List Char) (n : Node) (d : Declaration) : Prop :=
  ∃ components declared, d.fields = components ++ declared
    ∧ List.Forall₂ (fun c f => componentName? source c = some f.name) (recordComponents n) components
    ∧ List.Forall₂ (fun x f => ownName? source x = some f.name) (bodyFieldNodes n) declared

variable {source : List Char} {s : Synthesis} {root n : Node} {above : List Node} {d : Declaration}

/-- The outline of a record has its ordinary components only. -/
theorem componentNodes_eq (hkind : n.kind = .recordDeclaration) :
    componentNodes n = (recordComponents n).filter (·.kind == .formalParameter) := by
  rw [componentNodes, if_pos (by simp [hkind]), recordComponents]
  cases n.child? .parameters with
  | none => rfl
  | some parameters =>
      dsimp only
      rw [List.filter_filter]
      refine List.filter_congr fun c _ => ?_
      cases hk : c.kind == .formalParameter with
      | false => rfl
      | true => simp [isParameter, hk]

/-- A component is an ordinary one or takes any number of values. -/
theorem kind_of_mem_recordComponents {c : Node} (hc : c ∈ recordComponents n) :
    c.kind = .formalParameter ∨ c.kind = .spreadParameter := by
  rw [recordComponents] at hc
  split at hc
  · simpa [isParameter] using (List.mem_filter.mp hc).2
  · exact absurd hc List.not_mem_nil

/-! ## One field for each component -/

/-- What is related to two lists one behind the other falls apart like them. -/
theorem exists_append_of_forall₂ {α β : Type} {R : α → β → Prop} {as bs : List α} {cs : List β}
    (h : List.Forall₂ R (as ++ bs) cs) :
    ∃ front back, cs = front ++ back ∧ List.Forall₂ R as front ∧ List.Forall₂ R bs back := by
  induction as generalizing cs with
  | nil => exact ⟨[], cs, rfl, .nil, h⟩
  | cons a as ih =>
      obtain ⟨c, rest, hac, hrest, rfl⟩ := List.forall₂_cons_left_iff.mp h
      obtain ⟨front, back, rfl, hfront, hback⟩ := ih hrest
      exact ⟨c :: front, back, rfl, .cons hac hfront, hback⟩

/-- **Of the components of a record those are its fields that take a single value.**  So all of them
    are exactly if there is no other one. -/
theorem listsComponents_iff
    (hfields : List.Forall₂ (fun x f => ownName? source x = some f.name)
      ((recordComponents n).filter (·.kind == .formalParameter) ++ bodyFieldNodes n) d.fields) :
    ListsComponents source n d ↔ ∀ c ∈ recordComponents n, c.kind ≠ .spreadParameter := by
  constructor
  · rintro ⟨components, declared, heq, hcomponents, hdeclared⟩
    -- the lists are equally long, so the filter has dropped nothing
    have hlength : ((recordComponents n).filter (·.kind == .formalParameter)).length
        = (recordComponents n).length := by
      have h₁ := hfields.length_eq
      have h₂ := hcomponents.length_eq
      have h₃ := hdeclared.length_eq
      rw [heq, List.length_append, List.length_append] at h₁
      omega
    intro c hc hspread
    have hformal := List.length_filter_eq_length_iff.mp hlength c hc
    rw [hspread] at hformal
    exact absurd hformal (by decide)
  · intro hnone
    have hformal : ∀ c ∈ recordComponents n, c.kind = .formalParameter := fun c hc =>
      (kind_of_mem_recordComponents hc).resolve_right (hnone c hc)
    have hall : (recordComponents n).filter (·.kind == .formalParameter) = recordComponents n :=
      List.filter_eq_self.mpr fun c hc => beq_iff_eq.mpr (hformal c hc)
    rw [hall] at hfields
    obtain ⟨components, declared, heq, hcomponents, hdeclared⟩ := exists_append_of_forall₂ hfields
    refine ⟨components, declared, heq, ?_, hdeclared⟩
    -- an ordinary component has its name itself
    refine ((List.forall₂_and_left _ _).mpr ⟨hformal, hcomponents⟩).imp fun c f ⟨hk, hname⟩ => ?_
    rw [componentName?, if_neg (by simp [hk]), hname]

/-! ## Records in a tree -/

/-- **The fields of a record are its components exactly if all of them take a single value.**  Every
    record declaration in a shaped tree is extracted, with a field for each component that is an
    ordinary parameter, in their order, and behind them the fields of its body.  So there is one
    field for each component if and only if none takes any number of values.  The tree of every text
    is shaped. -/
theorem record_components_are_fields_iff (source : List Char) (s : Synthesis)
    (origin : Option String) (root n : Node) (above : List Node) :
    (∀ text parsed, parse? text = some parsed → Shaped parsed)
    ∧ (Shaped root → Place root n above → n.kind = .recordDeclaration →
        ∃ d ∈ extract source s origin root,
          declaredName? source n above = some d.typeName ∧ d.kind = .recordType
          ∧ List.Forall₂ (fun x f => ownName? source x = some f.name)
              ((recordComponents n).filter (·.kind == .formalParameter) ++ bodyFieldNodes n) d.fields
          ∧ (ListsComponents source n d ↔
              ∀ c ∈ recordComponents n, c.kind ≠ .spreadParameter)) := by
  refine ⟨fun text parsed h => shaped_of_parse? h, fun hroot hplace hkind => ?_⟩
  have hn := hplace.shaped hroot
  have hdeclares : n.kind.declaresType = true := by
    rw [hkind]
    rfl
  have hk : declarationKind? n.kind = some .recordType := by
    rw [hkind]
    rfl
  obtain ⟨name, hname⟩ := exists_declaredName? hroot hplace hdeclares source
  have hdeclared : namedDeclaration source s .recordType name n
      ∈ declarationsIn source s [] root := by
    refine hplace.mem_declarationsIn ?_
    simp only [declarationAt?, hk, hname, Option.map_some]
  have hplain : Describes source s none ⟨name, n, membersOf? (bodyOf? n)⟩
      (namedDeclaration source s .recordType name n) :=
    describes_namedDeclaration hn hdeclares hk name
  -- the file that a declaration was read from changes nothing else of it
  obtain ⟨d, hd, hdescribes⟩ : ∃ d ∈ extract source s origin root,
      Describes source s origin ⟨name, n, membersOf? (bodyOf? n)⟩ d := by
    cases origin with
    | none => exact ⟨_, List.mem_map.mpr ⟨_, hdeclared, rfl⟩, hplain⟩
    | some path => exact ⟨_, List.mem_map.mpr ⟨_, hdeclared, rfl⟩, hplain.withOrigin path⟩
  have hfields : List.Forall₂ (fun x f => ownName? source x = some f.name)
      ((recordComponents n).filter (·.kind == .formalParameter) ++ bodyFieldNodes n) d.fields := by
    rw [← componentNodes_eq hkind]
    exact hdescribes.fields.imp fun _ _ h => h.1
  refine ⟨d, hd, hname.trans (congrArg some hdescribes.name.symm), ?_, hfields,
    listsComponents_iff hfields⟩
  rw [hdescribes.kind, hk]
  rfl

/-- A record whose components are ordinary ones, with an annotation, type arguments and a comment. -/
def ordinaryComponents : String := "record R(@A int a,/* c */B<C>[] b)\x7bstatic int x;\x7d"

/-- Its fields are its two components and the one that its body declares. -/
theorem record_components_of_ordinary_record :
    ∃ root n, parse? ordinaryComponents = some root ∧ Place root n [root]
      ∧ n.kind = .recordDeclaration ∧ (recordComponents n).length = 2
      ∧ ∃ d ∈ extract ordinaryComponents.toList {} none root,
          ListsComponents ordinaryComponents.toList n d ∧ d.fields.map (·.name) = ["a", "b", "x"] := by
  have hfound : (parse? ordinaryComponents).bind (fun root =>
      (root.children.find? (·.kind == .recordDeclaration)).map fun n =>
        ((recordComponents n).map (·.kind),
          (extract ordinaryComponents.toList {} none root).map fun d => d.fields.map (·.name)))
      = some ([.formalParameter, .formalParameter], [["a", "b", "x"]]) := by
    decide +kernel
  obtain ⟨root, hroot, hfound⟩ := Option.bind_eq_some_iff.mp hfound
  obtain ⟨n, hn, hfound⟩ := Option.map_eq_some_iff.mp hfound
  obtain ⟨hkinds, hnames⟩ := Prod.mk.inj hfound
  have hkind : n.kind = .recordDeclaration := by simpa using List.find?_some hn
  have hplace : Place root n [root] := .child .root (List.mem_of_find?_eq_some hn)
  obtain ⟨hshaped, hfields⟩ :=
    record_components_are_fields_iff ordinaryComponents.toList {} none root n [root]
  obtain ⟨d, hd, -, -, -, hlists⟩ := hfields (hshaped _ root hroot) hplace hkind
  refine ⟨root, n, hroot, hplace, hkind, ?_, d, hd, hlists.mpr fun c hc => ?_, ?_⟩
  · rw [← List.length_map (·.kind), hkinds]
    rfl
  · have hmem := List.mem_map_of_mem (f := (·.kind)) hc
    rw [hkinds] at hmem
    intro hspread
    rw [hspread] at hmem
    exact absurd hmem (by decide)
  · have hmem := List.mem_map_of_mem (f := fun d => d.fields.map (·.name)) hd
    rw [hnames] at hmem
    exact List.mem_singleton.mp hmem

/-- A record whose last component takes any number of values. -/
def spreadComponent : String := "record R(int a,B... b)\x7b\x7d"

/-- The record has two components and one field. -/
theorem record_components_of_spread_record :
    ∃ root n, parse? spreadComponent = some root ∧ Place root n [root]
      ∧ n.kind = .recordDeclaration
      ∧ (recordComponents n).map (componentName? spreadComponent.toList) = [some "a", some "b"]
      ∧ ∃ d, extract spreadComponent.toList {} none root = [d] ∧ d.fields.map (·.name) = ["a"]
        ∧ ¬ ListsComponents spreadComponent.toList n d := by
  have hfound : (parse? spreadComponent).bind (fun root =>
      (root.children.find? (·.kind == .recordDeclaration)).map fun n =>
        ((recordComponents n).map (componentName? spreadComponent.toList),
          (extract spreadComponent.toList {} none root).map fun d => d.fields.map (·.name)))
      = some ([some "a", some "b"], [["a"]]) := by
    decide +kernel
  obtain ⟨root, hroot, hfound⟩ := Option.bind_eq_some_iff.mp hfound
  obtain ⟨n, hn, hfound⟩ := Option.map_eq_some_iff.mp hfound
  obtain ⟨hcomponents, hnames⟩ := Prod.mk.inj hfound
  have hkind : n.kind = .recordDeclaration := by simpa using List.find?_some hn
  have hplace : Place root n [root] := .child .root (List.mem_of_find?_eq_some hn)
  obtain ⟨d, hd, hname⟩ := List.map_eq_singleton_iff.mp hnames
  refine ⟨root, n, hroot, hplace, hkind, hcomponents, d, hd, hname, ?_⟩
  rintro ⟨components, declared, heq, hforall, -⟩
  have hlength := hforall.length_eq
  rw [← List.length_map (componentName? spreadComponent.toList), hcomponents] at hlength
  have hfields := congrArg List.length hname
  rw [heq, List.length_map, List.length_append, ← hlength] at hfields
  simp only [List.length_cons, List.length_nil] at hfields
  omega

end BeanMapper.Java
