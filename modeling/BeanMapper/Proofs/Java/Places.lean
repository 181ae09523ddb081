import BeanMapper.Java.Cursor
import BeanMapper.Proofs.Java.Setters
import BeanMapper.Proofs.Java.Trees

/-! # Places — the nodes of a tree with the nodes above them

    A cursor goes up from a node, and declarations are collected on the way
    down.  Both walk over the same places:

    * `Place` says that a node stands in a tree below certain others;
    * `place_of_pathFrom` says that a cursor stands at a place, and going up
      from it leads to the `nearestMethod?` (`enclosingMethod?_eq_some_iff`);
    * `Place.mem_declarationsIn` says that what is declared at a place is
      among the declarations of the tree;
    * `Place.declaring` puts them together: **the type that a method belongs
      to is declared in the tree**, under that name. -/

namespace BeanMapper.Java

/-- A node stands in a tree below the given nodes, nearest first. -/
inductive Place (root : Node) : Node → List Node → Prop
  | root : Place root root []
  | child {n p : Node} {above : List Node} (h : Place root p above) (hn : n ∈ p.children) :
      Place root n (p :: above)

namespace Place

variable {root n p : Node} {above : List Node} {source : List Char} {s : Synthesis}

/-- The nearest node above a place has a place itself. -/
theorem parent (h : Place root n (p :: above)) : Place root p above ∧ n ∈ p.children := by
  cases h with
  | child h hn => exact ⟨h, hn⟩

/-- What stands in a shaped tree is shaped. -/
theorem shaped (hroot : Shaped root) (h : Place root n above) : Shaped n := by
  induction h with
  | root => exact hroot
  | child h hn ih => exact ih.child hn

theorem mem_declarationsInAll {ns : List Node} (hn : n ∈ ns) {d : Declaration}
    (hd : d ∈ declarationsIn source s above n) : d ∈ declarationsInAll source s above ns := by
  induction ns with
  | nil => exact absurd hn List.not_mem_nil
  | cons m ms ih =>
      rw [declarationsInAll, List.mem_append]
      rcases List.mem_cons.mp hn with rfl | hn
      · exact .inl hd
      · exact .inr (ih hn)

/-- The declarations of a node, given the nodes above it. -/
theorem declarationsIn_eq : declarationsIn source s above n
    = (declarationAt? source s n above).toList ++ declarationsInAll source s (n :: above) n.children := by
  cases n
  rfl

/-- The declarations below a place are among those of the tree. -/
theorem declarationsIn_subset (h : Place root n above) {d : Declaration}
    (hd : d ∈ declarationsIn source s above n) : d ∈ declarationsIn source s [] root := by
  induction h with
  | root => exact hd
  | child h hn ih =>
      refine ih ?_
      rw [declarationsIn_eq]
      exact List.mem_append_right _ (mem_declarationsInAll hn hd)

/-- What is declared at a place is among the declarations of the tree. -/
theorem mem_declarationsIn (h : Place root n above) {d : Declaration}
    (hd : declarationAt? source s n above = some d) : d ∈ declarationsIn source s [] root := by
  refine h.declarationsIn_subset ?_
  rw [declarationsIn_eq, hd]
  exact List.mem_append_left _ List.mem_cons_self

end Place

/-! ## The place of a cursor -/

mutual

/-- The nodes that cover an offset stand below each other. -/
theorem place_of_pathFrom {root : Node} (offset : Nat) : ∀ {n : Node} {above : List Node},
    Place root n above → ∃ m rest, pathFrom offset n ++ above = m :: rest ∧ Place root m rest
  | .mk kind role start stop children, above, h => by
      rw [pathFrom, List.append_assoc, List.singleton_append]
      exact place_of_pathInto offset (fun _ hc => hc) h

/-- The nodes that cover an offset among the parts of a node stand below each other. -/
theorem place_of_pathInto {root p : Node} (offset : Nat) : ∀ {ns : List Node} {above : List Node},
    (∀ c ∈ ns, c ∈ p.children) → Place root p above →
      ∃ m rest, pathInto offset ns ++ p :: above = m :: rest ∧ Place root m rest
  | [], above, _, h => ⟨p, above, rfl, h⟩
  | n :: ns, above, hns, h => by
      obtain ⟨hn, hns⟩ := List.forall_mem_cons.mp hns
      rw [pathInto]
      split
      · exact place_of_pathFrom offset (.child h hn)
      · exact place_of_pathInto offset hns h

end

/-- A cursor stands at a place of the tree. -/
theorem place_of_siteAt {length offset : Nat} {root : Node} {site : Site}
    (h : siteAt length root offset = some site) : Place root site.node site.above := by
  rw [siteAt] at h
  split at h
  · exact nomatch h
  · have hroot : Place root root [] := .root
    obtain ⟨m, rest, hpath, hplace⟩ :=
      place_of_pathFrom (if offset = length then offset - 1 else offset) hroot
    rw [List.append_nil] at hpath
    rw [hpath] at h
    obtain rfl := Option.some.inj h
    exact hplace

/-! ## The method around a cursor -/

/-- The first method among a node and the nodes above it. -/
def nearestMethod? : List Node → Option Site
  | [] => none
  | n :: above => if n.kind.isMethod then some ⟨n, above⟩ else nearestMethod? above

/-- The innermost method around an offset of a text of the given length. -/
def innermostMethod? (length : Nat) (root : Node) (offset : Nat) : Option Site :=
  (siteAt length root offset).bind fun site => nearestMethod? (site.node :: site.above)

/-- The nearest method stands above the node that it is looked for from. -/
theorem Place.nearestMethod {root n : Node} {above : List Node} (h : Place root n above)
    {site : Site} (hsite : nearestMethod? (n :: above) = some site) :
    Place root site.node site.above := by
  induction above generalizing n with
  | nil =>
      rw [nearestMethod?] at hsite
      split at hsite
      · obtain rfl := Option.some.inj hsite
        exact h
      · exact nomatch hsite
  | cons p above ih =>
      rw [nearestMethod?] at hsite
      split at hsite
      · obtain rfl := Option.some.inj hsite
        exact h
      · exact ih h.parent.1 hsite

/-- The nearest method is one, and has fewer nodes above it than it is looked for among. -/
theorem above_lt_of_nearestMethod? {ns : List Node} {method : Site}
    (h : nearestMethod? ns = some method) :
    method.above.length < ns.length ∧ method.node.kind.isMethod = true := by
  induction ns with
  | nil => exact nomatch h
  | cons n above ih =>
      rw [nearestMethod?] at h
      split at h
      · obtain rfl := Option.some.inj h
        exact ⟨Nat.lt_succ_self _, ‹_›⟩
      · obtain ⟨hlt, hkind⟩ := ih h
        exact ⟨Nat.lt_succ_of_lt hlt, hkind⟩

/-- **Going up from a node leads to the nearest method, if it is no farther than allowed**; by
    induction on how far it may be. -/
theorem enclosingMethod?_eq_some_iff {source : List Char} {root : Node} {m : EnclosingMethod}
    (depth : Nat) : ∀ {site : Site}, (syntaxView source root).enclosingMethod? depth site = some m ↔
      ∃ method, nearestMethod? (site.node :: site.above) = some method
        ∧ site.above.length ≤ depth + method.above.length ∧ methodAt? source method = some m := by
  -- from a method the search goes nowhere
  have hself (depth : Nat) {site : Site} (hkind : site.node.kind.isMethod = true) :
      (syntaxView source root).enclosingMethod? depth site = some m ↔
        ∃ method, nearestMethod? (site.node :: site.above) = some method
          ∧ site.above.length ≤ depth + method.above.length ∧ methodAt? source method = some m := by
    have hfound : (syntaxView source root).enclosingMethod? depth site = methodAt? source site := by
      cases depth with
      | zero => rfl
      | succ depth => simp only [SyntaxView.enclosingMethod?, syntaxView, methodAt?, if_pos hkind]
    rw [hfound, nearestMethod?, if_pos hkind]
    constructor
    · intro h
      exact ⟨site, rfl, Nat.le_add_left _ _, h⟩
    · rintro ⟨method, hmethod, -, h⟩
      obtain rfl := Option.some.inj hmethod
      exact h
  induction depth with
  | zero =>
      intro site
      by_cases hkind : site.node.kind.isMethod = true
      · exact hself 0 hkind
      · have hat : methodAt? source site = none := by rw [methodAt?, if_neg hkind]
        show methodAt? source site = some m ↔ _
        rw [hat, nearestMethod?, if_neg hkind]
        constructor
        · intro h
          cases h
        · rintro ⟨method, hmethod, hle, -⟩
          have hlt := (above_lt_of_nearestMethod? hmethod).1
          omega
  | succ depth ih =>
      intro site
      by_cases hkind : site.node.kind.isMethod = true
      · exact hself (depth + 1) hkind
      · obtain ⟨n, above⟩ := site
        have hat : methodAt? source ⟨n, above⟩ = none := by rw [methodAt?, if_neg hkind]
        rw [SyntaxView.enclosingMethod?, nearestMethod?, if_neg hkind]
        simp only [syntaxView, hat]
        cases above with
        | nil =>
            constructor
            · intro h
              cases h
            · rintro ⟨method, hmethod, -⟩
              cases hmethod
        | cons p above =>
            rw [siteOf?, Option.bind_some]
            refine (@ih ⟨p, above⟩).trans (exists_congr fun method => ?_)
            simp only [List.length_cons]
            refine and_congr_right fun _ => and_congr_left fun _ => ?_
            omega

/-! ## The type that a method belongs to -/

/-- The declaration of a named type goes by that name. -/
theorem typeName_namedDeclaration (source : List Char) (s : Synthesis) (kind : DeclarationKind)
    (name : TypeName) (n : Node) : (namedDeclaration source s kind name n).typeName = name := by
  rw [namedDeclaration]
  obtain ⟨added, heq, -⟩ := complete_eq s _ _
  rw [heq]

/-- A declaration is that of the type in whose body a method stands directly. -/
structure Encloses (source : List Char) (s : Synthesis) (root : Node) (method : Site)
    (body : Node) (owner : Site) (d : Declaration) : Prop where
  /-- The method stands in the body and the body in the owner. -/
  around : bodyAround method.above = body :: owner.node :: owner.above
  /-- The members of the type that the owner declares or holds are those in the body. -/
  body_eq : bodyOf? owner.node = some body
  /-- The owner stands in the tree. -/
  place : Place root owner.node owner.above
  /-- The declaration is that of the owner. -/
  declared : declarationAt? source s owner.node owner.above = some d

namespace Place

variable {root n : Node} {above : List Node} {source : List Char}

/-- The body that a member stands in has a place itself. -/
theorem bodyAround (h : Place root n above) {body : Node} {rest : List Node}
    (hbody : Java.bodyAround above = body :: rest) : Place root body rest := by
  cases above with
  | nil => exact nomatch hbody
  | cons p above =>
      rw [Java.bodyAround] at hbody
      split at hbody
      · rw [hbody] at h
        exact h.parent.1.parent.1
      · obtain ⟨rfl, rfl⟩ := List.cons.inj hbody
        exact h.parent.1

/-- A node that holds a type without a name declares none with one. -/
theorem declarationKind?_of_owns {kind : Kind} (h : kind.ownsAnonymousBody = true) :
    declarationKind? kind = none ∧ kind.declaresType = false := by
  cases kind <;> first | exact ⟨rfl, rfl⟩ | exact absurd h (by decide)

theorem owns_eq_false_of_declares {kind : Kind} (h : kind.declaresType = true) :
    kind.ownsAnonymousBody = false := by
  cases kind <;> first | rfl | exact absurd h (by decide)

theorem declarationKind?_eq_none {kind : Kind} (h : kind.declaresType = false) :
    declarationKind? kind = none := by
  cases kind <;> first | rfl | exact absurd h (by decide)

/-- A node that declares a type has a kind of type. -/
theorem declarationKind?_of_declaresType {kind : Kind} (h : kind.declaresType = true) :
    ∃ k, declarationKind? kind = some k := by
  cases kind <;> first | exact ⟨_, rfl⟩ | exact absurd h (by decide)

/-- The owner of an anonymous body declares the type without a name that has this body. -/
theorem declared_of_anonymous {owner body : Node} (hshaped : Shaped owner)
    (hmem : body ∈ owner.children) (h : isAnonymousBody body (owner :: above) = true)
    (s : Synthesis) : bodyOf? owner = some body
      ∧ declarationAt? source s owner above = some (anonymousDeclaration source body) := by
  simp only [isAnonymousBody, List.head?_cons, Option.any_some, Bool.and_eq_true, beq_iff_eq] at h
  obtain ⟨hkind, howns⟩ := h
  obtain ⟨hbody, -⟩ := hshaped.body_eq hmem (by rw [hkind]; rfl)
  obtain ⟨hnone, hdeclares⟩ := declarationKind?_of_owns howns
  refine ⟨hbody, ?_⟩
  rw [bodyOf?, if_neg (by simp [hdeclares])] at hbody
  simp only [declarationAt?, hnone, hbody, Option.map_some]

/-- The owner of any other body of a type declares a type with a name. -/
theorem declared_of_named {owner body : Node} (hshaped : Shaped owner)
    (hmem : body ∈ owner.children) (hkind : body.kind.isTypeBody = true)
    (hnot : ¬ isAnonymousBody body (owner :: above) = true) {name : TypeName}
    (hname : declaredName? source owner above = some name) (s : Synthesis) :
    bodyOf? owner = some body
      ∧ ∃ k, declarationAt? source s owner above = some (namedDeclaration source s k name owner) := by
  obtain ⟨hbody, hdeclares | ⟨howns, hclass⟩⟩ := hshaped.body_eq hmem hkind
  · obtain ⟨k, hk⟩ := declarationKind?_of_declaresType hdeclares
    exact ⟨hbody, k, by simp only [declarationAt?, hk, hname, Option.map_some]⟩
  · exact absurd (by simp [isAnonymousBody, hclass, howns]) hnot

/-- **The type that a method belongs to is declared in the tree under that name.** -/
theorem declaring (hroot : Shaped root) {method : Site} (h : Place root method.node method.above)
    (s : Synthesis) {name : TypeName} (hname : enclosingName? source method.above = some name) :
    ∃ body owner d, Encloses source s root method body owner d ∧ d.typeName = name := by
  rw [enclosingName?.eq_def] at hname
  -- the method stands in a body, since its owner has a name
  split at hname
  · cases hname
  rename_i body above haround
  have hbody := h.bodyAround haround
  cases above with
  | nil =>
      -- no body is the root of a tree, since a name is asked for above it
      have hnot : ¬ isAnonymousBody body [] = true := by simp [isAnonymousBody]
      rw [if_neg hnot] at hname
      split at hname
      · cases hname
      · cases hname
  | cons owner above =>
      obtain ⟨howner, hmem⟩ := hbody.parent
      have hshaped := howner.shaped hroot
      -- the body belongs to a type without a name or to a declared one
      by_cases hanonymous : isAnonymousBody body (owner :: above) = true
      · rw [if_pos hanonymous] at hname
        obtain ⟨hof, hdeclared⟩ := declared_of_anonymous hshaped hmem hanonymous s
        exact ⟨body, ⟨owner, above⟩, _, ⟨haround, hof, howner, hdeclared⟩, Option.some.inj hname⟩
      · rw [if_neg hanonymous] at hname
        split at hname
        · rename_i hkind
          obtain ⟨hof, k, hdeclared⟩ := declared_of_named hshaped hmem hkind hanonymous hname s
          exact ⟨body, ⟨owner, above⟩, _, ⟨haround, hof, howner, hdeclared⟩,
            typeName_namedDeclaration source s k name owner⟩
        · cases hname

end Place

end BeanMapper.Java
