import Mathlib.Data.List.Basic
import BeanMapper.Proofs.Java.Places

/-! # Outlines — the types of a tree with their names and members, found from the top down

    The declarations of a tree are named from the bottom up, by climbing from
    each one to the types around it, and their members are looked for in their
    bodies.  An outline finds the same in one walk from the top down:

    * `Standing` is what the walk carries: the type that a node stands in;
    * `survey` gives the members that stand directly in that type, and an
      `Entry` for every type in a node;
    * `memberName?_eq` says that climbing finds the name that the walk carries;
    * `members_under` says that the members which the walk finds are those in
      the body of the type;
    * `map_node_survey`: **there is one entry for each node that declares a
      type, in their order in the text.** -/

namespace BeanMapper.Java

/-! ## Where a node stands -/

/-- Where a node stands among the types around it; a type without a name carries none. -/
inductive Standing where
  /-- Directly below the node that a type belongs to. -/
  | under (type : Option TypeName)
  /-- Directly among the members of a type. -/
  | inside (type : Option TypeName)
  /-- Anywhere else. -/
  | aside

namespace Standing

/-- Whether a node is a member of a type. -/
def isInside : Standing → Bool
  | inside _ => true
  | under _ => false
  | aside => false

/-- The name of a type with the given name of its own: a member of a named type has that type's name
    in front of it, any other type starts anew. -/
def nameOf : Standing → String → TypeName
  | inside (some outer), own => outer.nested own
  | _, own => ⟨own⟩

/-- Where the parts of a node stand, given where the node stands. -/
def step (source : List Char) (st : Standing) (n : Node) : Standing :=
  if n.kind.declaresType then under ((ownName? source n).map st.nameOf)
  else if n.kind.ownsAnonymousBody then under none
  else match st with
    | under type => if n.kind.isTypeBody then inside type else aside
    | inside type => if n.kind == .enumBodyDeclarations then inside type else aside
    | aside => aside

end Standing

/-- Where a node stands, given the nodes above it. -/
def standing (source : List Char) : List Node → Standing
  | [] => .aside
  | p :: above => (standing source above).step source p

/-! ## The outline of a tree -/

/-- A type of an outline. -/
structure Entry where
  /-- The name of the type. -/
  name : TypeName
  /-- The node that declares the type, or holds its body if it has no name. -/
  node : Node
  /-- The nodes that stand directly in the type. -/
  members : List Node

/-- What is found in a node. -/
structure Survey where
  /-- The members that stand directly in the type around the node. -/
  members : List Node
  /-- The types in the node, an outer one before the ones inside it. -/
  types : List Entry

/-- The type that a node declares or holds, given where it stands and the members that are found
    below it. -/
def typeAt? (source : List Char) (st : Standing) (n : Node) (members : List Node) : Option Entry :=
  if n.kind.declaresType then (ownName? source n).map fun own => ⟨st.nameOf own, n, members⟩
  else if n.kind.ownsAnonymousBody then
    (n.childOfKind? .classBody).map fun body => ⟨.anonymous body.start, n, members⟩
  else none

mutual

/-- What is found in a node, given where it stands.  Bodies hand on the members inside them, and
    every other member is one itself. -/
def survey (source : List Char) (st : Standing) : Node → Survey
  | .mk kind role start stop children =>
      let n := Node.mk kind role start stop children
      let inner := surveyAll source (st.step source n) children
      { members :=
          if (st.step source n).isInside then inner.members else if st.isInside then [n] else []
        types := (typeAt? source st n inner.members).toList ++ inner.types }

/-- What is found in some nodes, given where they stand. -/
def surveyAll (source : List Char) (st : Standing) : List Node → Survey
  | [] => ⟨[], []⟩
  | n :: ns =>
      let first := survey source st n
      let rest := surveyAll source st ns
      ⟨first.members ++ rest.members, first.types ++ rest.types⟩

end

/-- The types of a tree. -/
def outline (source : List Char) (root : Node) : List Entry := (survey source .aside root).types

/-- Whether a node declares a type or holds one without a name. -/
def Node.declares (n : Node) : Bool :=
  n.kind.declaresType || (n.kind.ownsAnonymousBody && n.children.any (·.kind == .classBody))

variable {source : List Char} {root n b : Node} {above : List Node} {type : Option TypeName}
  {st : Standing}

/-- What is found in a node, by what is found below it. -/
theorem survey_eq : survey source st n =
    { members :=
        if (st.step source n).isInside then (surveyAll source (st.step source n) n.children).members
        else if st.isInside then [n] else []
      types :=
        (typeAt? source st n (surveyAll source (st.step source n) n.children).members).toList
          ++ (surveyAll source (st.step source n) n.children).types } := by
  cases n
  rfl

theorem members_surveyAll (ns : List Node) :
    (surveyAll source st ns).members = ns.flatMap fun n => (survey source st n).members := by
  induction ns with
  | nil => rfl
  | cons n ns ih => rw [surveyAll, List.flatMap_cons, ih]

/-! ## Ways into a type -/

theorem Kind.plain_of_body {kind : Kind}
    (h : kind.isTypeBody = true ∨ kind = .enumBodyDeclarations) :
    kind.declaresType = false ∧ kind.ownsAnonymousBody = false := by
  rcases h with h | rfl
  · cases kind <;> first | exact ⟨rfl, rfl⟩ | exact absurd h (by decide)
  · exact ⟨rfl, rfl⟩

namespace Standing

/-- Only a body leads into a type, and in an enumeration the part behind its constants leads on. -/
theorem step_eq_inside_iff : st.step source n = inside type ↔
    (st = under type ∧ n.kind.isTypeBody = true)
      ∨ (st = inside type ∧ n.kind = .enumBodyDeclarations) := by
  by_cases hbody : n.kind.isTypeBody = true ∨ n.kind = .enumBodyDeclarations
  · obtain ⟨hdeclares, howns⟩ := Kind.plain_of_body hbody
    rw [step.eq_def, if_neg (by simp [hdeclares]), if_neg (by simp [howns])]
    cases st with
    | under type' =>
        by_cases hk : n.kind.isTypeBody = true
        · simp [hk]
        · simp [hk]
    | inside type' =>
        by_cases hk : n.kind = .enumBodyDeclarations
        · simp [hk]
        · simp [hk]
    | aside => simp
  · -- any other node leads nowhere, wherever it stands
    obtain ⟨hk, hlate⟩ := not_or.mp hbody
    constructor
    · intro h
      rw [step.eq_def] at h
      split at h
      · exact nomatch h
      split at h
      · exact nomatch h
      cases st with
      | under type' => exact nomatch h
      | inside type' => simp [hlate] at h
      | aside => exact nomatch h
    · rintro (⟨-, h⟩ | ⟨-, h⟩)
      · exact absurd h hk
      · exact absurd h hlate

theorem nameOf_of_not_inside (h : ∀ type, st ≠ inside type) (own : String) :
    st.nameOf own = ⟨own⟩ := by
  cases st with
  | under type => rfl
  | inside type => exact absurd rfl (h type)
  | aside => rfl

end Standing

/-! ## Names -/

/-- A body of a declared type leads into that type. -/
theorem standing_of_named {owner : Node} (hbody : b.kind.isTypeBody = true)
    (hkind : owner.kind.declaresType = true) : standing source (b :: owner :: above)
      = .inside ((ownName? source owner).map (standing source above).nameOf) := by
  refine Standing.step_eq_inside_iff.mpr (.inl ⟨?_, hbody⟩)
  rw [standing, Standing.step.eq_def, if_pos hkind]

theorem standing_of_anonymous {owner : Node} (hbody : b.kind.isTypeBody = true)
    (hkind : owner.kind.ownsAnonymousBody = true) :
    standing source (b :: owner :: above) = .inside none := by
  refine Standing.step_eq_inside_iff.mpr (.inl ⟨?_, hbody⟩)
  have hdeclares := (Place.declarationKind?_of_owns hkind).2
  rw [standing, Standing.step.eq_def, if_neg (by simp [hdeclares]), if_pos hkind]

/-- What declares a type gives it a name of its own. -/
theorem Shaped.exists_ownName? (h : Shaped n) (hkind : n.kind.bearsName = true)
    (source : List Char) : ∃ own, ownName? source n = some own := by
  obtain ⟨c, -, hc, -⟩ := h.name_of_bearsName hkind
  exact ⟨c.words source, by rw [ownName?, hc, Option.map_some]⟩

/-- Every method is one that a member stands for. -/
theorem Shaped.exists_method (h : Shaped n) (hkind : n.kind = .methodDeclaration)
    (source : List Char) : ∃ m, methodOfMember? source n = some m := by
  obtain ⟨own, hown⟩ := h.exists_ownName? (by rw [hkind]; rfl) source
  rw [methodOfMember?, if_pos (by simp [hkind]), hown]
  exact ⟨_, rfl⟩

/-- The members behind the constants of an enumeration stand in its body, and that stands in an
    enumeration. -/
theorem Place.enumeration_of_late {body : Node} (hroot : Shaped root)
    (h : Place root n (body :: above)) (hlate : n.kind = .enumBodyDeclarations) :
    body.kind = .enumBody
      ∧ ∀ owner rest, above = owner :: rest → owner.kind.declaresType = true := by
  obtain ⟨hbody, hmem⟩ := h.parent
  have hinert : n.kind.isInert = false := by rw [hlate]; rfl
  have hkind : body.kind = .enumBody :=
    (hbody.shaped hroot).fits.bodied.late n.head (Node.head_mem_heads hmem hinert) hlate
  refine ⟨hkind, ?_⟩
  rintro owner rest rfl
  obtain ⟨howner, hmem⟩ := hbody.parent
  -- the body of a type without a name is that of a class
  obtain ⟨-, hdeclares | ⟨-, hclass⟩⟩ := (howner.shaped hroot).body_eq hmem (by rw [hkind]; rfl)
  · exact hdeclares
  · rw [hkind] at hclass
    exact nomatch hclass

/-- The part behind the constants of an enumeration changes no name, neither for the walk nor for
    climbing. -/
theorem name_of_late {late body : Node} (hroot : Shaped root)
    (h : Place root late (body :: above)) (hlate : late.kind = .enumBodyDeclarations)
    (source : List Char) (own : String) :
    memberName? source (late :: body :: above) own = memberName? source (body :: above) own
      ∧ (standing source (late :: body :: above)).nameOf own
        = (standing source (body :: above)).nameOf own := by
  obtain ⟨henum, howner⟩ := h.enumeration_of_late hroot hlate
  have hbody : body.kind.isTypeBody = true := by rw [henum]; rfl
  cases above with
  | nil =>
      -- the body of the enumeration is the root, so there is no type around it
      refine ⟨by rw [memberName?.eq_def]; simp [hlate, memberName?], ?_⟩
      simp [standing, Standing.step, hlate, henum, Kind.declaresType, Kind.ownsAnonymousBody]
  | cons owner above =>
      have hdeclares := howner owner above rfl
      constructor
      · rw [memberName?.eq_def, memberName?.eq_def]
        simp [hlate, henum, hdeclares, Kind.isTypeBody]
      · rw [standing, standing_of_named hbody hdeclares,
          Standing.step_eq_inside_iff.mpr (.inr ⟨rfl, hlate⟩)]

/-- **Climbing finds the name that is carried from above**; by induction on the nodes above a type,
    where each step goes to the type around it. -/
theorem memberName?_eq (hroot : Shaped root) : ∀ (above : List Node) {n : Node},
    Place root n above → ∀ own : String,
      memberName? source above own = some ((standing source above).nameOf own)
  | [], _, _, _ => rfl
  | [p], _, _, own => by
      have houtside (type : Option TypeName) : standing source [p] ≠ .inside type := fun h => by
        rcases Standing.step_eq_inside_iff.mp h with ⟨h, -⟩ | ⟨h, -⟩
        · exact nomatch h
        · exact nomatch h
      rw [Standing.nameOf_of_not_inside houtside]
      rfl
  | body :: owner :: above, n, h, own => by
      have hplace := h.parent.1
      by_cases hlate : body.kind = .enumBodyDeclarations
      · obtain ⟨hname, hstanding⟩ := name_of_late hroot hplace hlate source own
        rw [hname, hstanding, memberName?_eq hroot (owner :: above) hplace]
      rw [memberName?.eq_def]
      dsimp only
      rw [if_neg (by simp [hlate])]
      by_cases hbody : body.kind.isTypeBody = true
      · obtain ⟨howner, hmem⟩ := hplace.parent
        have hshaped := howner.shaped hroot
        obtain ⟨-, hdeclares | ⟨howns, -⟩⟩ := hshaped.body_eq hmem hbody
        · -- the type around a member is itself named by climbing on
          obtain ⟨outer, houter⟩ :=
            hshaped.exists_ownName? (Kind.bearsName_of_declaresType hdeclares) source
          rw [if_pos (by simp [hbody, hdeclares]), standing_of_named hbody hdeclares, houter,
            Option.bind_some, memberName?_eq hroot above howner outer]
          rfl
        · have hnamed := (Place.declarationKind?_of_owns howns).2
          rw [if_neg (by simp [hnamed]), standing_of_anonymous hbody howns]
          rfl
      · -- neither climbing nor the walk goes through any other node
        have houtside (type : Option TypeName) :
            standing source (body :: owner :: above) ≠ .inside type := fun hst => by
          rcases Standing.step_eq_inside_iff.mp hst with ⟨-, hk⟩ | ⟨-, hk⟩
          · exact hbody hk
          · exact hlate hk
        rw [if_neg (by simp [hbody]), Standing.nameOf_of_not_inside houtside]

/-! ## Members -/

theorem members_of_not_inside (h : ∀ type, st.step source n ≠ .inside type) :
    (survey source st n).members = if st.isInside then [n] else [] := by
  rw [survey_eq]
  cases hst : st.step source n with
  | inside type => exact absurd hst (h type)
  | under type => rfl
  | aside => rfl

theorem members_of_inside (h : st.step source n = .inside type) :
    (survey source st n).members = (surveyAll source (.inside type) n.children).members := by
  rw [survey_eq, h]
  rfl

theorem members_inside (hkind : n.kind ≠ .enumBodyDeclarations) :
    (survey source (.inside type) n).members = [n] := by
  refine members_of_not_inside fun type' hst => ?_
  rcases Standing.step_eq_inside_iff.mp hst with ⟨h, -⟩ | ⟨-, hlate⟩
  · exact nomatch h
  · exact hkind hlate

/-- The part behind the constants of an enumeration hands on the members in it. -/
theorem members_late (hn : Shaped n) (hkind : n.kind = .enumBodyDeclarations) :
    (survey source (.inside type) n).members = n.children := by
  have hparts : ∀ c ∈ n.children, (survey source (.inside type) c).members = [c] := by
    -- only the body of an enumeration has such a part, and this is none
    intro c hc
    refine members_inside fun hlate => ?_
    have hinert : c.kind.isInert = false := by rw [hlate]; rfl
    have henum := hn.fits.bodied.late c.head (Node.head_mem_heads hc hinert) hlate
    rw [hkind] at henum
    exact nomatch henum
  rw [members_of_inside (Standing.step_eq_inside_iff.mpr (.inr ⟨rfl, hkind⟩)), members_surveyAll,
    List.flatMap_congr hparts, List.flatMap_singleton']

/-- The members in a body are found in it, in their order. -/
theorem members_body (hb : Shaped b) :
    (surveyAll source (.inside type) b.children).members = membersOf b := by
  rw [members_surveyAll, membersOf]
  refine List.flatMap_congr fun n hn => ?_
  by_cases hlate : n.kind = .enumBodyDeclarations
  · rw [if_pos (by simp [hlate]), members_late (hb.child hn) hlate]
  · rw [if_neg (by simp [hlate]), members_inside hlate]

/-- Of the parts of the node that a type belongs to only bodies hand on members; by induction on the
    parts. -/
theorem members_parts {ns : List Node} (hns : ∀ n ∈ ns, Shaped n) :
    (surveyAll source (.under type) ns).members
      = (ns.filter (·.kind.isTypeBody)).flatMap membersOf := by
  induction ns with
  | nil => rfl
  | cons n ns ih =>
      obtain ⟨hn, hns⟩ := List.forall_mem_cons.mp hns
      rw [surveyAll, ih hns, List.filter_cons]
      by_cases hbody : n.kind.isTypeBody = true
      · rw [if_pos hbody, List.flatMap_cons,
          members_of_inside (Standing.step_eq_inside_iff.mpr (.inl ⟨rfl, hbody⟩)), members_body hn]
      · have hnone : (survey source (.under type) n).members = [] := by
          refine members_of_not_inside fun type' hst => ?_
          rcases Standing.step_eq_inside_iff.mp hst with ⟨-, h⟩ | ⟨h, -⟩
          · exact hbody h
          · exact nomatch h
        rw [if_neg hbody, hnone, List.nil_append]

/-- **The members that are found below the node of a type are those in the body of the type.** -/
theorem members_under (hn : Shaped n) :
    (surveyAll source (.under type) n.children).members = membersOf? (bodyOf? n) := by
  rw [members_parts fun c hc => hn.child hc, hn.bodies_eq_bodyOf?]
  cases bodyOf? n with
  | none => rfl
  | some b => rw [Option.toList_some, List.flatMap_singleton, membersOf?]

/-! ## Types -/

/-- A node has an entry exactly if it declares or holds a type. -/
theorem map_node_typeAt? (hn : Shaped n) (members : List Node) :
    (typeAt? source st n members).toList.map (·.node) = [n].filter (·.declares) := by
  by_cases hdeclares : n.kind.declaresType = true
  · obtain ⟨own, hown⟩ := hn.exists_ownName? (Kind.bearsName_of_declaresType hdeclares) source
    simp [typeAt?, Node.declares, hdeclares, hown]
  by_cases howns : n.kind.ownsAnonymousBody = true
  · cases hbody : n.childOfKind? .classBody with
    | some body =>
        have hkind := List.find?_some (p := fun c : Node => c.kind == .classBody) hbody
        have hany : n.children.any (·.kind == .classBody) = true :=
          List.any_eq_true.mpr ⟨body, List.mem_of_find?_eq_some hbody, hkind⟩
        simp [typeAt?, Node.declares, hdeclares, howns, hbody, hany]
    | none =>
        have hany : n.children.any (·.kind == .classBody) = false := by
          simpa [Node.childOfKind?] using hbody
        simp [typeAt?, Node.declares, hdeclares, howns, hbody, hany]
  · simp [typeAt?, Node.declares, hdeclares, howns]

mutual

/-- **There is one entry for each node that declares or holds a type, in their order.** -/
theorem map_node_survey : ∀ {n : Node} {st : Standing}, Shaped n →
    (survey source st n).types.map (·.node) = n.preorder.filter (·.declares)
  | .mk kind role start stop children, st, h => by
      rw [survey_eq, List.map_append, map_node_typeAt? h,
        map_node_surveyAll fun c hc => h.child hc, ← List.filter_append]
      rfl

theorem map_node_surveyAll : ∀ {ns : List Node} {st : Standing}, (∀ n ∈ ns, Shaped n) →
    (surveyAll source st ns).types.map (·.node) = (Node.preorderAll ns).filter (·.declares)
  | [], _, _ => rfl
  | n :: ns, st, h => by
      obtain ⟨hn, hns⟩ := List.forall_mem_cons.mp h
      rw [surveyAll, List.map_append, map_node_survey hn, map_node_surveyAll hns,
        Node.preorderAll, List.filter_append]

end

end BeanMapper.Java
