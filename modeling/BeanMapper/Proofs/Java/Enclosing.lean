import BeanMapper.Proofs.Java.Outline

/-! # Enclosing types — a method is listed by the type that climbing names

    The type around a method is named by climbing from the method, while
    methods are listed on the way down from a type.  Both meet in the body that
    the method stands in:

    * `StandsIn` says that a node stands directly in a body, or behind the
      constants in that of an enumeration;
    * `exists_enclosingName?` says that climbing gives a name for every one of
      them, whatever the body belongs to;
    * `mem_methods_of_declarationAt?` says that the declaration of a body lists
      each of the methods that stand in it;
    * `Place.listed` puts them together: **the type that climbing names is the
      one that lists the method**;
    * `enclosingMethod?_of_within` finds the method itself, as far up as the
      bound allows. -/

namespace BeanMapper.Java

/-- A node with the given nodes above it stands directly in the body of a type, or behind the
    constants in the body of an enumeration. -/
structure StandsIn (body : Node) (around above : List Node) : Prop where
  /-- The body is that of a type. -/
  kind : body.kind.isTypeBody = true
  /-- It is the nearest node above, or the next one behind constants. -/
  above_eq : above = body :: around
    ∨ ∃ late, late.kind = .enumBodyDeclarations ∧ above = late :: body :: around

variable {source : List Char} {root body owner n : Node} {above around rest : List Node}
  {s : Synthesis}

namespace StandsIn

/-- The body that a node stands in is the one that climbing goes to. -/
theorem bodyAround_eq (h : StandsIn body around above) : bodyAround above = body :: around := by
  have hlate : body.kind ≠ .enumBodyDeclarations := fun hk => by
    have hbody := h.kind
    rw [hk] at hbody
    exact nomatch hbody
  rcases h.above_eq with rfl | ⟨late, hk, rfl⟩
  · rw [bodyAround, if_neg (by simp [hlate])]
  · rw [bodyAround, if_pos (by simp [hk])]

/-- What stands in a body is one of its members. -/
theorem mem_membersOf (h : StandsIn body around above) (hplace : Place root n above)
    (hkind : n.kind ≠ .enumBodyDeclarations) : n ∈ membersOf body := by
  rw [membersOf, List.mem_flatMap]
  rcases h.above_eq with rfl | ⟨late, hlate, rfl⟩
  · refine ⟨n, hplace.parent.2, ?_⟩
    rw [if_neg (by simp [hkind])]
    exact List.mem_singleton_self n
  · obtain ⟨hbody, hmem⟩ := hplace.parent
    refine ⟨late, hbody.parent.2, ?_⟩
    rw [if_pos (by simp [hlate])]
    exact hmem

/-- Where no body is the root of the tree, each one has an owner. -/
theorem exists_owner (h : StandsIn body around above) (hplace : Place root n above)
    (hroot : root.kind.isTypeBody = false) : ∃ owner rest, around = owner :: rest := by
  have hbody : Place root body around := hplace.bodyAround h.bodyAround_eq
  cases hbody with
  | root =>
      rw [h.kind] at hroot
      exact nomatch hroot
  | child hp hn => exact ⟨_, _, rfl⟩

end StandsIn

/-! ## The name of the type around a node -/

theorem exists_declaredName? (hroot : Shaped root) (h : Place root owner rest)
    (hkind : owner.kind.declaresType = true) (source : List Char) :
    ∃ name, declaredName? source owner rest = some name := by
  have hshaped := h.shaped hroot
  obtain ⟨own, hown⟩ := hshaped.exists_ownName? (Kind.bearsName_of_declaresType hkind) source
  by_cases hanonymous : isAnonymousBody owner rest = true
  · exact ⟨_, by rw [declaredName?, if_pos hanonymous]⟩
  · rw [declaredName?, if_neg hanonymous, if_pos hkind, hown, Option.bind_some]
    exact ⟨_, memberName?_eq hroot rest h own⟩

/-- **Climbing names a type for every node that stands in a body.** -/
theorem exists_enclosingName? (hroot : Shaped root) (hplace : Place root n above)
    (h : StandsIn body (owner :: rest) above) (source : List Char) :
    ∃ name, enclosingName? source above = some name := by
  obtain ⟨howner, hmem⟩ := (hplace.bodyAround h.bodyAround_eq).parent
  obtain ⟨-, hdeclares | ⟨howns, hclass⟩⟩ := (howner.shaped hroot).body_eq hmem h.kind
  · -- the body of a declaration is that of no type without a name
    have hnamed : isAnonymousBody body (owner :: rest) = false := by
      simp [isAnonymousBody, Place.owns_eq_false_of_declares hdeclares]
    obtain ⟨name, hname⟩ := exists_declaredName? hroot howner hdeclares source
    refine ⟨name, ?_⟩
    rw [enclosingName?, h.bodyAround_eq]
    dsimp only
    rw [if_neg (by simp [hnamed]), if_pos h.kind, hname]
  · refine ⟨.anonymous body.start, ?_⟩
    rw [enclosingName?, h.bodyAround_eq]
    dsimp only
    rw [if_pos (by simp [isAnonymousBody, hclass, howns])]

/-! ## The declaration that lists a method -/

/-- A declaration lists every method among the members in its body. -/
theorem mem_methods_of_declarationAt? {d : Declaration}
    (hd : declarationAt? source s owner rest = some d) (hbody : bodyOf? owner = some body)
    (hn : n ∈ membersOf body) {m : Method} (hm : methodOfMember? source n = some m) :
    m ∈ d.methods := by
  have hlisted : m ∈ (membersOf body).filterMap (methodOfMember? source) :=
    List.mem_filterMap.mpr ⟨n, hn, hm⟩
  cases hdeclares : owner.kind.declaresType with
  | true =>
      obtain ⟨kind, hk⟩ := Place.declarationKind?_of_declaresType hdeclares
      rw [bodyOf?, if_pos hdeclares] at hbody
      simp only [declarationAt?, hk, Option.map_eq_some_iff] at hd
      obtain ⟨name, -, rfl⟩ := hd
      rw [namedDeclaration]
      obtain ⟨added, heq, -⟩ := complete_eq s _ _
      rw [heq, hbody]
      exact List.mem_append_left added hlisted
  | false =>
      rw [bodyOf?, if_neg (by simp [hdeclares])] at hbody
      have hk := Place.declarationKind?_eq_none hdeclares
      simp only [declarationAt?, hk, hbody, Option.map_some, Option.some.injEq] at hd
      subst hd
      exact hlisted

/-- **The type that climbing from a method names is declared in the tree and lists the method.** -/
theorem Place.listed (hroot : Shaped root) {method : Site}
    (hplace : Place root method.node method.above)
    (hkind : method.node.kind = .methodDeclaration)
    (h : StandsIn body (owner :: rest) method.above) (s : Synthesis) :
    ∃ d m, Encloses source s root method body ⟨owner, rest⟩ d
      ∧ enclosingName? source method.above = some d.typeName
      ∧ methodOfMember? source method.node = some m ∧ m ∈ d.methods := by
  obtain ⟨name, hname⟩ := exists_enclosingName? hroot hplace h source
  obtain ⟨body', owner', d, hencloses, rfl⟩ := hplace.declaring hroot s hname
  -- there is only one body around the method
  have haround := h.bodyAround_eq.symm.trans hencloses.around
  injection haround with hbody hrest
  injection hrest with hnode habove
  obtain ⟨node', above'⟩ := owner'
  dsimp only at hnode habove
  subst hbody hnode habove
  obtain ⟨m, hm⟩ := (hplace.shaped hroot).exists_method hkind source
  have hmember := h.mem_membersOf hplace (by rw [hkind]; decide)
  exact ⟨d, m, hencloses, hname, hm,
    mem_methods_of_declarationAt? hencloses.declared hencloses.body_eq hmember hm⟩

/-- The return type of a method is erased as it is written, unless there is none. -/
theorem returnTypeOf_eq (hn : Shaped n) (hkind : n.kind = .methodDeclaration)
    (source : List Char) : ∃ t, n.child? .type = some t ∧ (t.kind ≠ .voidType →
      returnTypeOf source n = .type (TypeName.erased (t.words source))) := by
  obtain ⟨t, hmem, hchild, hrole⟩ := Node.exists_child? (hn.fits.named.type hkind)
  refine ⟨t, hchild, fun hvoid => ?_⟩
  have hbare : t.kind ≠ .annotatedType :=
    hn.fits.named.bare hkind t.head (hn.head_mem hmem (by rw [hrole]; decide)) hrole
  have hwritten : writtenType? source t = some (.erased (t.words source)) := by
    obtain ⟨kind, role, start, stop, children⟩ := t
    rw [writtenType?, if_neg (by simpa [Node.kind] using hbare)]
  rw [returnTypeOf, if_neg (by simp [hkind]), hchild]
  dsimp only
  rw [if_neg (by simp [hvoid]), hwritten]

/-! ## The method around an offset -/

/-- The innermost method around an offset of a text of the given length is at most a number of
    parents away from the node there. -/
def MethodWithin (length : Nat) (root : Node) (offset depth : Nat) (method : Site) : Prop :=
  ∃ site, siteAt length root offset = some site
    ∧ nearestMethod? (site.node :: site.above) = some method
    ∧ site.above.length ≤ depth + method.above.length

/-- A search from an offset finds a method in its place, with whatever is seen of it. -/
theorem exists_methodWithin {α : Type} {seen : Site → α} {v : α} {length offset depth : Nat}
    (h : (siteAt length root offset).bind (fun site =>
        (nearestMethod? (site.node :: site.above)).map fun method =>
          (decide (site.above.length ≤ depth + method.above.length), seen method))
      = some (true, v)) :
    ∃ method : Site, Place root method.node method.above
      ∧ MethodWithin length root offset depth method ∧ seen method = v := by
  obtain ⟨site, hsite, h⟩ := Option.bind_eq_some_iff.mp h
  obtain ⟨method, hnearest, h⟩ := Option.map_eq_some_iff.mp h
  obtain ⟨hdepth, hseen⟩ := Prod.mk.inj h
  exact ⟨method, (place_of_siteAt hsite).nearestMethod hnearest,
    ⟨site, hsite, hnearest, of_decide_eq_true hdepth⟩, hseen⟩

/-- **A method within the bound is the one that is located.** -/
theorem enclosingMethod?_of_within {offset depth : Nat} {method : Site}
    (h : MethodWithin (Text.byteLength source) root offset depth method) :
    ((syntaxView source root).nodeAt offset).bind ((syntaxView source root).enclosingMethod? depth)
      = some ⟨(ownName? source method.node).getD "", returnTypeOf source method.node,
          enclosingName? source method.above⟩ := by
  obtain ⟨site, hsite, hnearest, hdepth⟩ := h
  have hnode : (syntaxView source root).nodeAt offset = some site := hsite
  rw [hnode, Option.bind_some]
  refine (enclosingMethod?_eq_some_iff depth).mpr ⟨method, hnearest, hdepth, ?_⟩
  rw [methodAt?, if_pos (above_lt_of_nearestMethod? hnearest).2]

end BeanMapper.Java
