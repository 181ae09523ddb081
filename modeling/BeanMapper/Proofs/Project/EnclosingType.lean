import BeanMapper.Proofs.Java.Enclosing
import BeanMapper.Proofs.Project.SourceType

/-! # Enclosing types — an analysis never fails for want of its source

    The type around a method is named from the tree of the edited file, and the
    declarations of that tree are registered first.  So its name always leads
    somewhere, and what can be missing is the type that the method returns:

    * `context_eq_unresolvable_iff` says when the context of a method cannot be
      resolved, given that its source can;
    * `Opened.analyze_unresolvable_iff` says it of an analysis in a project;
    * `enclosing_type_lists_method` puts this behind `Java.Place.listed`: **the
      cursor and the index name the same type.** -/

namespace BeanMapper

/-- Where the source of a method is known, its context fails to be resolved exactly if its target is
    not known. -/
theorem context_eq_unresolvable_iff {declarationOf : TypeName → Option Declaration}
    {method : EnclosingMethod} {returned : TypeName} {source : Declaration}
    (hreturned : method.returnType.asType? = some returned)
    (hsource : method.enclosingType.bind declarationOf = some source) :
    method.context declarationOf = .error .unresolvableType ↔ declarationOf returned = none := by
  rw [EnclosingMethod.context, hreturned]
  dsimp only
  rw [hsource]
  cases declarationOf returned with
  | none => exact ⟨fun _ => rfl, fun _ => rfl⟩
  | some target =>
      constructor
      · intro h
        cases h
      · intro h
        cases h

namespace Project

variable {synthesis : Java.Synthesis} {edited : ParsedFile} {added : List ParsedFile} {p : Project}

/-- A name of a declaration leads to some declaration. -/
theorem Opened.exists_get? (h : Opened synthesis edited added p) {d : Declaration}
    (hd : d ∈ declarationsOf synthesis edited) : ∃ s, p.index.get? d.typeName = some s := by
  have hall := List.mem_append_left (added.flatMap (declarationsOf synthesis)) hd
  cases hget : p.index.get? d.typeName with
  | some s => exact ⟨s, rfl⟩
  | none =>
      have hnone := h.holds.position?_eq_none_iff.mp (h.holds.get?_eq_none_iff.mp hget)
      exact absurd rfl (hnone d hall)

/-- At a method of a declared type that returns a type, an analysis fails to resolve its two types
    exactly if nothing that is declared has the simple name of the returned one. -/
theorem Opened.analyze_unresolvable_iff (h : Opened synthesis edited added p) {settings : Config}
    {offset : Nat} {method : EnclosingMethod} {returned : TypeName} {d : Declaration}
    (hmethod : (p.view.nodeAt offset).bind
      (p.view.enclosingMethod? settings.maxAscentDepth.toNat) = some method)
    (hreturned : method.returnType = .type returned)
    (hd : d ∈ declarationsOf synthesis edited)
    (henclosing : method.enclosingType = some d.typeName) :
    p.analyze settings offset = .error .unresolvableType ↔
      ∀ e ∈ declarationsOf synthesis edited ++ added.flatMap (declarationsOf synthesis),
        e.typeName.simpleName ≠ returned.simpleName := by
  obtain ⟨s, hs⟩ := h.exists_get? hd
  have hsource : method.enclosingType.bind p.index.get? = some s := by
    rw [henclosing, Option.bind_some, hs]
  have hlocate : locate p.view p.index.get? settings.maxAscentDepth.toNat offset
      = method.context p.index.get? := by
    rw [locate, hmethod]
  rw [analyze, analyze_eq_error_iff h.holds.stable, hlocate,
    context_eq_unresolvable_iff (by rw [hreturned]; rfl) hsource,
    h.holds.get?_eq_none_iff, h.holds.position?_eq_none_iff]

/-- **The cursor and the index name the same type.**  For a method that stands in the body of a
    type, or behind the constants in that of an enumeration, climbing names the type of the
    declaration that lists the method.  So at any offset in such a method, if it returns a type, an
    analysis fails to resolve its types exactly if no declaration of the edited file or of the added
    ones has the simple name of the returned type.  This holds for every tree of the edited file that
    is well formed, and those of all texts are. -/
theorem enclosing_type_lists_method :
    (∀ file, (parsed file).WellFormed)
    ∧ ∀ (config settings : Config) (edited : ParsedFile) (siblings : List ParsedFile)
        (method : Java.Site) (body : Java.Node) (around : List Java.Node), edited.WellFormed →
        Java.Place edited.root method.node method.above →
        method.node.kind = .methodDeclaration → Java.StandsIn body around method.above →
        (∃ owner plain m, Java.Encloses edited.source.toList (synthesisOf config) edited.root
            method body owner plain
          ∧ plain.withOrigin edited.path ∈ declarationsOf (synthesisOf config) edited
          ∧ Java.enclosingName? edited.source.toList method.above = some plain.typeName
          ∧ Java.methodOfMember? edited.source.toList method.node = some m ∧ m ∈ plain.methods)
        ∧ ∃ returned, method.node.child? .type = some returned
          ∧ ∀ offset, Java.MethodWithin (Text.byteLength edited.source.toList) edited.root
              offset settings.maxAscentDepth.toNat method → returned.kind ≠ .voidType →
            ((ofFiles config edited siblings).analyze settings offset = .error .unresolvableType ↔
              ∀ e ∈ declarationsOf (synthesisOf config) edited
                  ++ siblings.flatMap (declarationsOf (synthesisOf config)),
                e.typeName.simpleName
                  ≠ (TypeName.erased (returned.words edited.source.toList)).simpleName) := by
  refine ⟨wellFormed_parsed, ?_⟩
  intro config settings edited siblings method body around hedited hplace hkind hstands
  have hroot := hedited.shaped
  -- the root is a program and no body of a type, so every body has an owner
  obtain ⟨owner, rest, rfl⟩ := hstands.exists_owner hplace (by rw [hedited.program]; rfl)
  obtain ⟨plain, m, hencloses, hname, hm, hlisted⟩ :=
    hplace.listed hroot hkind hstands (synthesisOf config)
  have hdeclared : plain.withOrigin edited.path ∈ declarationsOf (synthesisOf config) edited :=
    List.mem_map.mpr ⟨plain, hencloses.place.mem_declarationsIn hencloses.declared, rfl⟩
  refine ⟨⟨_, plain, m, hencloses, hdeclared, hname, hm, hlisted⟩, ?_⟩
  obtain ⟨returned, hchild, htype⟩ :=
    Java.returnTypeOf_eq (hplace.shaped hroot) hkind edited.source.toList
  refine ⟨returned, hchild, fun offset hwithin hvoid => ?_⟩
  have hopened := opened_ofFiles config edited siblings
  have hlocated := Java.enclosingMethod?_of_within hwithin
  rw [← hopened.view_eq] at hlocated
  exact hopened.analyze_unresolvable_iff hlocated (htype hvoid) hdeclared hname

/-- An enumeration with a method behind its constants. -/
def methodBehindConstants : ParsedFile := parsed ⟨"E.java", "enum E\x7bX;B m()\x7b\x7d\x7d"⟩

/-- The method belongs to the enumeration; what it returns cannot be resolved in the file alone, and
    can be with a file that declares it. -/
theorem enclosing_type_of_method_behind_constants :
    ∃ method body around,
      Java.Place methodBehindConstants.root method.node method.above
      ∧ method.node.kind = .methodDeclaration ∧ Java.StandsIn body around method.above
      ∧ Java.MethodWithin (Text.byteLength methodBehindConstants.source.toList)
          methodBehindConstants.root 11 Config.default.maxAscentDepth.toNat method
      ∧ (∃ d ∈ declarationsOf (synthesisOf .default) methodBehindConstants,
          Java.enclosingName? methodBehindConstants.source.toList method.above = some d.typeName)
      ∧ (ofFiles .default methodBehindConstants []).analyze .default 11 = .error .unresolvableType
      ∧ (ofFiles .default methodBehindConstants [parsed ⟨"B.java", "class B\x7b\x7d"⟩]).analyze .default 11
          ≠ .error .unresolvableType := by
  have hfound : (Java.siteAt (Text.byteLength methodBehindConstants.source.toList)
      methodBehindConstants.root 11).bind (fun site =>
        (Java.nearestMethod? (site.node :: site.above)).map fun method =>
          (decide (site.above.length ≤ Config.default.maxAscentDepth.toNat + method.above.length),
            method.node.kind, method.above.map (·.kind),
            (method.node.child? .type).map fun t =>
              (t.kind, t.words methodBehindConstants.source.toList)))
      = some (true, .methodDeclaration,
          [.enumBodyDeclarations, .enumBody, .enumDeclaration, .program],
          some (.typeIdentifier, "B")) := by
    decide +kernel
  obtain ⟨site, hsite, hfound⟩ := Option.bind_eq_some_iff.mp hfound
  obtain ⟨method, hnearest, hfound⟩ := Option.map_eq_some_iff.mp hfound
  simp only [Prod.mk.injEq, decide_eq_true_eq, List.map_eq_cons_iff,
    Option.map_eq_some_iff] at hfound
  obtain ⟨hdepth, hkind, hkinds, t, ht, hvoid, hwords⟩ := hfound
  obtain ⟨late, _, habove, hlate, body, around, rfl, hbody, -⟩ := hkinds
  have hplace := (Java.place_of_siteAt hsite).nearestMethod hnearest
  have hstands : Java.StandsIn body around method.above :=
    ⟨by rw [hbody]; rfl, .inr ⟨late, hlate, habove⟩⟩
  have hwithin : Java.MethodWithin (Text.byteLength methodBehindConstants.source.toList)
      methodBehindConstants.root 11 Config.default.maxAscentDepth.toNat method :=
    ⟨site, hsite, hnearest, hdepth⟩
  obtain ⟨hparsed, hlists⟩ := enclosing_type_lists_method
  have htheorem := fun siblings => hlists .default .default methodBehindConstants siblings _ _ _
    (hparsed _) hplace hkind hstands
  obtain ⟨⟨owner, plain, m, -, hd, hname, -⟩, -⟩ := htheorem []
  -- with either list of siblings the question is whether `B` is declared
  have hiff (siblings : List ParsedFile) :
      (ofFiles .default methodBehindConstants siblings).analyze .default 11
        = .error .unresolvableType ↔
      ∀ e ∈ declarationsOf (synthesisOf .default) methodBehindConstants
          ++ siblings.flatMap (declarationsOf (synthesisOf .default)),
        e.typeName.simpleName ≠ (TypeName.erased "B").simpleName := by
    obtain ⟨-, returned, hreturned, hanalyze⟩ := htheorem siblings
    obtain rfl : returned = t := Option.some.inj (hreturned.symm.trans ht)
    rw [← hwords]
    exact hanalyze 11 hwithin (by rw [hvoid]; decide)
  refine ⟨method, body, around, hplace, hkind, hstands, hwithin, ⟨_, hd, hname⟩, ?_, ?_⟩
  · exact (hiff _).mpr (by decide +kernel)
  · exact fun h => absurd ((hiff _).mp h) (by decide +kernel)

end Project

end BeanMapper
