import Mathlib.Data.List.Forall2
import BeanMapper.Proofs.Java.Outline

/-! # Extraction — every type of a tree is declared once, with its own members

    What is extracted from a tree is its outline, entry for entry:

    * `Describes` says what a declaration takes from an entry: the name, the
      fields and the methods in their order, and setters added behind these;
    * `forall₂_fieldsOfMember`, `forall₂_componentsOf` and `forall₂_methods`
      say that nothing is left out of the lists, since every part that is
      listed has a name;
    * `forall₂_typeAt?` says it of the type at one place, and `forall₂_survey`
      of all that stands below, by one induction for the two walks;
    * `extract_follows_outline`: **nothing is lost, found twice or taken from
      another type.** -/

namespace BeanMapper.Java

/-! ## The members of an entry -/

/-- The parts of a member that are fields of the type around it. -/
def fieldNodes (n : Node) : List Node :=
  if n.kind.declaresFields then n.children.filter (·.role == .declarator)
  else if n.kind == .enumConstant then [n]
  else []

/-- The components of a record that are written as ordinary parameters. -/
def componentNodes (n : Node) : List Node :=
  if n.kind == .recordDeclaration then
    match n.child? .parameters with
    | some parameters => parameters.children.filter (·.kind == .formalParameter)
    | none => []
  else []

namespace Entry

/-- The fields of a type: components first, then what its members declare. -/
def fields (e : Entry) : List Node := componentNodes e.node ++ e.members.flatMap fieldNodes

/-- The methods of a type. -/
def methods (e : Entry) : List Node := e.members.filter (·.kind == .methodDeclaration)

end Entry

/-- A declaration lists what an entry of an outline holds. -/
structure Describes (source : List Char) (s : Synthesis) (origin : Option String) (e : Entry)
    (d : Declaration) : Prop where
  /-- It goes by the name of the entry. -/
  name : d.typeName = e.name
  /-- It is of the kind that the node declares; a node without such a kind holds a type without a
      name. -/
  kind : d.kind = (declarationKind? e.node.kind).getD .anonymousType
  /-- Its fields are those of the entry, declared by itself. -/
  fields : List.Forall₂ (fun x f => ownName? source x = some f.name ∧ f.declaringType = d.typeName)
    e.fields d.fields
  /-- Its methods are those of the entry; behind them stand setters that were added to a class. -/
  methods : ∃ explicit added, d.methods = explicit ++ added
    ∧ List.Forall₂ (fun x m => methodOfMember? source x = some m) e.methods explicit
    ∧ ∀ m ∈ added, s.isOn = true ∧ d.kind = .classType
      ∧ ∃ f ∈ d.fields, m.name = Synthesis.setterName f.name
  /-- It was read from the given file. -/
  origin : d.origin = origin

variable {source : List Char} {s : Synthesis} {root n : Node} {above : List Node}

/-! ## Fields and methods -/

/-- A field goes by the name that a node has of its own. -/
def Names (source : List Char) (n : Node) (f : FieldEntry) : Prop := ownName? source n = some f.name

/-- Nodes that have names of their own are listed by these, with none left out. -/
theorem forall₂_filterMap_ownName? {ns : List Node}
    (h : ∀ n ∈ ns, ∃ own, ownName? source n = some own) (modifiers : Modifiers) :
    List.Forall₂ (Names source) ns
      (ns.filterMap fun n => (ownName? source n).map fun own => ⟨own, modifiers⟩) := by
  induction ns with
  | nil => exact .nil
  | cons n ns ih =>
      obtain ⟨hn, hns⟩ := List.forall_mem_cons.mp h
      obtain ⟨own, hown⟩ := hn
      rw [List.filterMap_cons_some (by rw [hown, Option.map_some])]
      exact .cons hown (ih hns)

/-- A member lists the fields that it declares. -/
theorem forall₂_fieldsOfMember (hn : Shaped n) :
    List.Forall₂ (Names source) (fieldNodes n)
      (fieldsOfMember source n) := by
  have hdeclared (hkind : n.kind.declaresFields = true) :
      List.Forall₂ (Names source) (fieldNodes n)
        (declaredFields source n) := by
    rw [fieldNodes, if_pos hkind]
    refine forall₂_filterMap_ownName? ?_ (modifiersOf source n)
    intro c hc
    obtain ⟨hmem, hrole⟩ := List.mem_filter.mp hc
    rw [beq_iff_eq] at hrole
    -- what is declared is a variable, and every variable has a name
    have hvariable := hn.fits.named.declarators hkind c.head
      (hn.head_mem hmem (by rw [hrole]; decide)) hrole
    refine (hn.child hmem).exists_ownName? ?_ source
    rw [show c.kind = .variableDeclarator from hvariable]
    rfl
  by_cases hfields : n.kind.declaresFields = true
  · have hkind : n.kind = .fieldDeclaration ∨ n.kind = .constantDeclaration := by
      simpa [Kind.declaresFields] using hfields
    rcases hkind with hkind | hkind
    · simpa only [fieldsOfMember, hkind] using hdeclared hfields
    · simpa only [fieldsOfMember, hkind] using hdeclared hfields
  by_cases hconstant : n.kind = .enumConstant
  · obtain ⟨own, hown⟩ := hn.exists_ownName? (by rw [hconstant]; rfl) source
    simp only [fieldNodes, fieldsOfMember, hconstant, hown]
    exact .cons hown .nil
  · rw [fieldNodes, if_neg hfields, if_neg (by simp [hconstant])]
    rw [fieldsOfMember.eq_def]
    split
    · exact absurd (by rw [‹n.kind = _›]; rfl) hfields
    · exact absurd (by rw [‹n.kind = _›]; rfl) hfields
    · exact absurd ‹n.kind = _› hconstant
    · exact .nil

/-- A record lists its components, and no other type has any. -/
theorem forall₂_componentsOf (hn : Shaped n) (hkind : n.kind.declaresType = true) :
    List.Forall₂ (Names source) (componentNodes n)
      (componentsOf source n) := by
  rw [componentNodes, componentsOf]
  cases hparameters : n.child? .parameters with
  | none =>
      split
      · exact .nil
      · exact .nil
  | some parameters =>
      have hmem := List.mem_of_find?_eq_some hparameters
      have hrole : parameters.role = .parameters := by simpa using List.find?_some hparameters
      have hrecord : n.kind = .recordDeclaration := by
        by_contra hother
        exact hn.fits.named.only hkind hother parameters.head
          (hn.head_mem hmem (by rw [hrole]; decide)) hrole
      rw [if_pos (by simp [hrecord])]
      refine forall₂_filterMap_ownName? ?_ _
      intro c hc
      obtain ⟨hc, hck⟩ := List.mem_filter.mp hc
      rw [beq_iff_eq] at hck
      refine ((hn.child hmem).child hc).exists_ownName? ?_ source
      rw [hck]
      rfl

/-- Members list the methods among them. -/
theorem forall₂_methods {ns : List Node} (hns : ∀ n ∈ ns, Shaped n) :
    List.Forall₂ (fun x m => methodOfMember? source x = some m)
      (ns.filter (·.kind == .methodDeclaration)) (ns.filterMap (methodOfMember? source)) := by
  induction ns with
  | nil => exact .nil
  | cons n ns ih =>
      obtain ⟨hn, hns⟩ := List.forall_mem_cons.mp hns
      by_cases hkind : n.kind = .methodDeclaration
      · obtain ⟨m, hm⟩ := hn.exists_method hkind source
        rw [List.filter_cons_of_pos (by simp [hkind]), List.filterMap_cons_some hm]
        exact .cons hm (ih hns)
      · have hnone : methodOfMember? source n = none := by
          rw [methodOfMember?, if_neg (by simp [hkind])]
        rw [List.filter_cons_of_neg (by simp [hkind]), List.filterMap_cons_none hnone]
        exact ih hns

theorem Shaped.of_mem_membersOf? (hn : Shaped n) {c : Node} (hc : c ∈ membersOf? (bodyOf? n)) :
    Shaped c := by
  cases hbody : bodyOf? n with
  | none =>
      rw [hbody] at hc
      exact absurd hc List.not_mem_nil
  | some b =>
      rw [hbody] at hc
      have hb := hn.child (hn.isTypeBody_of_bodyOf? hbody).1
      obtain ⟨m, hm, hcm⟩ := List.mem_flatMap.mp hc
      split at hcm
      · exact (hb.child hm).child hcm
      · obtain rfl := List.mem_singleton.mp hcm
        exact hb.child hm

theorem forall₂_flatMap_fieldsOfMember {ns : List Node} (hns : ∀ n ∈ ns, Shaped n) :
    List.Forall₂ (Names source) (ns.flatMap fieldNodes)
      (ns.flatMap (fieldsOfMember source)) := by
  induction ns with
  | nil => exact .nil
  | cons n ns ih =>
      obtain ⟨hn, hns⟩ := List.forall_mem_cons.mp hns
      exact List.rel_append (forall₂_fieldsOfMember hn) (ih hns)

theorem forall₂_declaring {ns : List Node} {fs : List FieldEntry} {name : TypeName}
    (h : List.Forall₂ (Names source) ns fs) :
    List.Forall₂ (fun x f => ownName? source x = some f.name ∧ f.declaringType = name) ns
      (fs.map fun f => (⟨f.name, name⟩ : Field)) :=
  List.forall₂_map_right_iff.mpr (h.imp fun _ _ hx => ⟨hx, rfl⟩)

/-! ## Declarations -/

/-- The declaration of a named type describes its entry. -/
theorem describes_namedDeclaration (hn : Shaped n) (hkind : n.kind.declaresType = true)
    {kind : DeclarationKind} (hk : declarationKind? n.kind = some kind) (name : TypeName) :
    Describes source s none ⟨name, n, membersOf? (bodyOf? n)⟩
      (namedDeclaration source s kind name n) := by
  have hbody : bodyOf? n = n.child? .body := by rw [bodyOf?, if_pos hkind]
  have hmembers : ∀ c ∈ membersOf? (n.child? .body), Shaped c := by
    intro c hc
    rw [← hbody] at hc
    exact hn.of_mem_membersOf? hc
  have hfields : List.Forall₂ (Names source)
      (componentNodes n ++ (membersOf? (n.child? .body)).flatMap fieldNodes)
      (componentsOf source n ++ (membersOf? (n.child? .body)).flatMap (fieldsOfMember source)) :=
    List.rel_append (forall₂_componentsOf hn hkind) (forall₂_flatMap_fieldsOfMember hmembers)
  rw [namedDeclaration, hbody]
  obtain ⟨added, heq, hadded⟩ := complete_eq s _ _
  rw [heq]
  refine ⟨rfl, by rw [hk]; rfl, forall₂_declaring hfields, ?_, rfl⟩
  refine ⟨_, added, rfl, forall₂_methods hmembers, fun m hm => ?_⟩
  obtain ⟨hon, hclass, f, hf, hname⟩ := hadded m hm
  exact ⟨hon, hclass, _, List.mem_map_of_mem hf, hname⟩

/-- The declaration of a type without a name describes its entry. -/
theorem describes_anonymousDeclaration (hn : Shaped n) (howns : n.kind.ownsAnonymousBody = true)
    {body : Node} (hbody : bodyOf? n = some body) :
    Describes source s none ⟨.anonymous body.start, n, membersOf? (bodyOf? n)⟩
      (anonymousDeclaration source body) := by
  have hmembers : ∀ c ∈ membersOf body, Shaped c := by
    intro c hc
    refine hn.of_mem_membersOf? ?_
    rw [hbody]
    exact hc
  obtain ⟨hnone, hdeclares⟩ := Place.declarationKind?_of_owns howns
  have hcomponents : componentNodes n = [] := by
    rw [componentNodes, if_neg]
    intro hk
    rw [beq_iff_eq] at hk
    rw [hk] at hdeclares
    exact nomatch hdeclares
  rw [hbody]
  refine ⟨rfl, by rw [hnone]; rfl, ?_, ?_, rfl⟩
  · rw [Entry.fields, hcomponents, List.nil_append]
    exact forall₂_declaring (forall₂_flatMap_fieldsOfMember hmembers)
  · refine ⟨_, [], (List.append_nil _).symm, forall₂_methods hmembers, ?_⟩
    exact fun m hm => absurd hm List.not_mem_nil

/-- The body of a class below a node that may hold one is the body of a type without a name. -/
theorem Shaped.classBody_eq (hn : Shaped n) (howns : n.kind.ownsAnonymousBody = true) :
    n.childOfKind? .classBody = bodyOf? n := by
  cases hbody : n.childOfKind? .classBody with
  | some body =>
      have hkind : body.kind = .classBody := by simpa using List.find?_some hbody
      exact (hn.body_eq (List.mem_of_find?_eq_some hbody) (by rw [hkind]; rfl)).1.symm
  | none =>
      cases hof : bodyOf? n with
      | none => rfl
      | some body =>
          obtain ⟨hmem, htype⟩ := hn.isTypeBody_of_bodyOf? hof
          obtain ⟨-, hdeclares | ⟨-, hkind⟩⟩ := hn.body_eq hmem htype
          · rw [(Place.declarationKind?_of_owns howns).2] at hdeclares
            exact nomatch hdeclares
          · exact absurd (beq_iff_eq.mpr hkind) (List.find?_eq_none.mp hbody body hmem)

/-- What is declared at a place describes the entry of the walk there. -/
theorem forall₂_typeAt? (hroot : Shaped root) (h : Place root n above) :
    List.Forall₂ (Describes source s none)
      (typeAt? source (standing source above) n
        (surveyAll source (standing source (n :: above)) n.children).members).toList
      (declarationAt? source s n above).toList := by
  have hn := h.shaped hroot
  by_cases hdeclares : n.kind.declaresType = true
  · obtain ⟨kind, hkind⟩ := Place.declarationKind?_of_declaresType hdeclares
    obtain ⟨own, hown⟩ := hn.exists_ownName? (Kind.bearsName_of_declaresType hdeclares) source
    have hnamed : isAnonymousBody n above = false := by
      have hclass : n.kind ≠ .classBody := fun hk => by
        rw [hk] at hdeclares
        exact nomatch hdeclares
      simp [isAnonymousBody, hclass]
    have hname : declaredName? source n above = some ((standing source above).nameOf own) := by
      rw [declaredName?, if_neg (by simp [hnamed]), if_pos hdeclares, hown, Option.bind_some,
        memberName?_eq hroot above h]
    rw [typeAt?, if_pos hdeclares, hown, standing, Standing.step.eq_def, if_pos hdeclares,
      members_under hn]
    simp only [declarationAt?, hkind, hname, Option.map_some, Option.toList_some]
    exact .cons (describes_namedDeclaration hn hdeclares hkind _) .nil
  by_cases howns : n.kind.ownsAnonymousBody = true
  · have hnone := (Place.declarationKind?_of_owns howns).1
    have hof : bodyOf? n = anonymousBody? n := by rw [bodyOf?, if_neg hdeclares]
    rw [typeAt?, if_neg hdeclares, if_pos howns, standing, Standing.step.eq_def, if_neg hdeclares,
      if_pos howns, members_under hn, hn.classBody_eq howns]
    simp only [declarationAt?, hnone, ← hof]
    cases hbody : bodyOf? n with
    | none => exact .nil
    | some body =>
        refine .cons ?_ .nil
        rw [← hbody]
        exact describes_anonymousDeclaration hn howns hbody
  · have hkind := Place.declarationKind?_eq_none (Bool.eq_false_iff.mpr hdeclares)
    have hbody : anonymousBody? n = none := by
      rw [anonymousBody?.eq_def]
      split
      · exact absurd (by rw [‹n.kind = _›]; rfl) howns
      · exact absurd (by rw [‹n.kind = _›]; rfl) howns
      · rfl
    have hdeclared : declarationAt? source s n above = none := by
      simp only [declarationAt?, hkind, hbody, Option.map_none]
    rw [typeAt?, if_neg hdeclares, if_neg howns, hdeclared]
    exact .nil

mutual

/-- What is extracted from a node describes what the walk finds in it, entry for entry. -/
theorem forall₂_survey (hroot : Shaped root) : ∀ {n : Node} {above : List Node},
    Place root n above → List.Forall₂ (Describes source s none)
      (survey source (standing source above) n).types (declarationsIn source s above n)
  | .mk kind role start stop children, above, h => by
      rw [survey_eq, declarationsIn]
      exact List.rel_append (forall₂_typeAt? hroot h)
        (forall₂_surveyAll hroot h fun c hc => hc)

theorem forall₂_surveyAll (hroot : Shaped root) {p : Node} {above : List Node}
    (h : Place root p above) : ∀ {ns : List Node}, (∀ c ∈ ns, c ∈ p.children) →
      List.Forall₂ (Describes source s none)
        (surveyAll source (standing source (p :: above)) ns).types
        (declarationsInAll source s (p :: above) ns)
  | [], _ => .nil
  | n :: ns, hns => by
      obtain ⟨hn, hns⟩ := List.forall_mem_cons.mp hns
      rw [surveyAll, declarationsInAll]
      exact List.rel_append (forall₂_survey hroot (.child h hn)) (forall₂_surveyAll hroot h hns)

end

theorem Describes.withOrigin {e : Entry} {d : Declaration} (h : Describes source s none e d)
    (path : String) : Describes source s (some path) e (d.withOrigin path) :=
  ⟨h.name, h.kind, h.fields, h.methods, rfl⟩

/-- **Every type of a tree is declared once, with its own members.**  The tree of every text is
    shaped, and from a shaped tree one declaration is extracted for each node that declares a type
    or holds one without a name, in the order of these nodes.  Each declaration has the name, the
    fields and the methods of its entry in the outline, and no others but added setters. -/
theorem extract_follows_outline :
    (∀ text root, parse? text = some root → Shaped root)
    ∧ ∀ (source : List Char) (s : Synthesis) (origin : Option String) (root : Node), Shaped root →
        (outline source root).map (·.node) = root.preorder.filter (·.declares)
        ∧ List.Forall₂ (Describes source s origin) (outline source root)
            (extract source s origin root) := by
  refine ⟨fun text root h => shaped_of_parse? h, fun source s origin root hroot => ⟨?_, ?_⟩⟩
  · exact map_node_survey hroot
  · have hall : List.Forall₂ (Describes source s none) (outline source root)
        (declarationsIn source s [] root) := forall₂_survey hroot .root
    rw [extract]
    cases origin with
    | none =>
        rw [List.map_id'']
        · exact hall
        · exact fun d => rfl
    | some path =>
        exact List.forall₂_map_right_iff.mpr (hall.imp fun e d h => h.withOrigin path)

/-- A class with an enumeration, a record, a local class and a class without a name in it, each with
    members or types of its own. -/
def nestedTypes : String :=
  "class A\x7benum E\x7bX\x7bint y;\x7d;void m()\x7b\x7d\x7d" ++
  "record R(int a)\x7bclass I\x7b\x7d\x7d\x7bclass L\x7b\x7dnew B()\x7bclass N\x7b\x7d\x7d;\x7d\x7d"

/-- Member types are named by the types around them, also behind constants and in records; a local
    class and a member of a class without a name start anew. -/
theorem extract_of_nested_types :
    ∃ root, parse? nestedTypes = some root ∧ Shaped root
      ∧ (extract nestedTypes.toList {} none root).map (·.typeName.name)
        = ["A", "A.E", "<anonymous@16>", "A.R", "A.R.I", "L", "<anonymous@79>", "N"]
      ∧ (extract nestedTypes.toList {} none root).length
        = (root.preorder.filter (·.declares)).length
      ∧ List.Forall₂ (Describes nestedTypes.toList {} none) (outline nestedTypes.toList root)
          (extract nestedTypes.toList {} none root) := by
  have hnames : (parse? nestedTypes).map (fun root =>
      (extract nestedTypes.toList {} none root).map (·.typeName.name))
        = some ["A", "A.E", "<anonymous@16>", "A.R", "A.R.I", "L", "<anonymous@79>", "N"] := by
    decide +kernel
  obtain ⟨root, hroot, hnames⟩ := Option.map_eq_some_iff.mp hnames
  have hshaped := extract_follows_outline.1 nestedTypes root hroot
  obtain ⟨hnodes, hall⟩ := extract_follows_outline.2 nestedTypes.toList {} none root hshaped
  refine ⟨root, hroot, hshaped, hnames, ?_, hall⟩
  rw [← hall.length_eq, ← hnodes, List.length_map]

end BeanMapper.Java
