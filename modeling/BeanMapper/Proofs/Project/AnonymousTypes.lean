import BeanMapper.Proofs.Java.Handles
import BeanMapper.Proofs.Project.InnermostMethod

/-! # Anonymous types — handles in a project of several files

    The handle of an anonymous type tells an offset and no file, and all files
    share one index.  Still no handle is taken for another one or for a name
    that is written:

    * `declarationsOf_cases` says that what a file declares goes by a handle of
      one of its bodies or by a plain name;
    * `Opened.get?_anonymous` says that a handle of the edited file leads to the
      body there, since no added file stands in front of it;
    * `Opened.plain_of_get?` says that a plain name leads to a plain name;
    * `anonymous_handles_stay_apart` puts them together: **the target of an
      analysis is never anonymous.** -/

namespace BeanMapper.Project

variable {synthesis : Java.Synthesis} {edited file : ParsedFile} {added : List ParsedFile}
  {p : Project} {d : Declaration} {ty : TypeName}

/-- A declaration of a file is that of a body without a name, under its handle, or has a plain
    name. -/
theorem declarationsOf_cases (hfile : file.WellFormed) (hd : d ∈ declarationsOf synthesis file) :
    (∃ body above, Java.Place file.root body above
        ∧ Java.isAnonymousBody body above = true
        ∧ d = (Java.anonymousDeclaration file.source.toList body).withOrigin file.path)
      ∨ (d.kind ≠ .anonymousType ∧ d.typeName.IsPlain) := by
  obtain ⟨plain, hplain, rfl⟩ := List.mem_map.mp hd
  rcases Java.declared_cases hfile.shaped hfile.laid hplain with
    ⟨body, above, hbody, hanonymous, rfl⟩ | h
  · exact .inl ⟨body, above, hbody, hanonymous, rfl⟩
  · exact .inr h

/-- The body of an anonymous type is that of a class. -/
theorem isTypeBody_of_isAnonymousBody {body : Java.Node} {above : List Java.Node}
    (h : Java.isAnonymousBody body above = true) : body.kind.isTypeBody = true := by
  simp only [Java.isAnonymousBody, Bool.and_eq_true, beq_iff_eq] at h
  rw [h.1]
  rfl

/-- Every body without a name is declared in its file. -/
theorem mem_declarationsOf_of_anonymous {body : Java.Node} {above : List Java.Node}
    (hroot : Java.Shaped file.root) (h : Java.Place file.root body above)
    (hanonymous : Java.isAnonymousBody body above = true) (synthesis : Java.Synthesis) :
    (Java.anonymousDeclaration file.source.toList body).withOrigin file.path
      ∈ declarationsOf synthesis file := by
  refine List.mem_map.mpr ⟨_, ?_, rfl⟩
  cases above with
  | nil => simp [Java.isAnonymousBody] at hanonymous
  | cons owner above =>
      obtain ⟨howner, hmem⟩ := h.parent
      have hshaped := howner.shaped hroot
      exact howner.mem_declarationsIn
        (Java.Place.declared_of_anonymous hshaped hmem hanonymous synthesis).2

/-- What a lookup finds is declared and shares a suffix with the name. -/
theorem Opened.shared_of_get? (h : Opened synthesis edited added p)
    (hd : p.index.get? ty = some d) :
    d ∈ declarationsOf synthesis edited ++ added.flatMap (declarationsOf synthesis)
      ∧ ∃ k, k ∈ ty.suffixes ∧ k ∈ d.typeName.suffixes := by
  obtain ⟨i, hi, hget⟩ := (h.holds.get?_eq_some_iff d).mp hd
  obtain ⟨k, hlongest, hfirst⟩ := (h.holds.position?_eq_some_iff i).mp hi
  obtain ⟨e, he, hk⟩ := hfirst.bears
  obtain rfl : d = e := Option.some.inj (hget.symm.trans he)
  exact ⟨List.mem_of_getElem? hget, k, hlongest.own, hk⟩

/-- **A handle of the edited file leads to the body that it was made from.** -/
theorem Opened.get?_anonymous (h : Opened synthesis edited added p) (hedited : edited.WellFormed)
    {body : Java.Node} {above : List Java.Node} (hbody : Java.Place edited.root body above)
    (hanonymous : Java.isAnonymousBody body above = true) :
    p.index.get? (.anonymous body.start)
      = some ((Java.anonymousDeclaration edited.source.toList body).withOrigin edited.path) := by
  have hdeclared := mem_declarationsOf_of_anonymous hedited.shaped hbody hanonymous synthesis
  obtain ⟨s, hs⟩ := h.exists_get? hdeclared
  obtain ⟨hmem, hname⟩ := mem_of_firstNamed? (h.get?_declared hdeclared hs)
  change TypeName.anonymous body.start ∈ s.typeName.suffixes at hname
  refine hs.trans (congrArg some ?_)
  -- what goes by the handle is no named type, and no body that starts elsewhere
  rcases declarationsOf_cases hedited hmem with
    ⟨other, around, hother, hanonymous', rfl⟩ | ⟨-, hplain⟩
  · have hstart := TypeName.anonymous_inj.mp (TypeName.suffixes_anonymous.mp hname)
    rw [hedited.laid.body_unique hedited.nested hbody hother
      (isTypeBody_of_isAnonymousBody hanonymous) (isTypeBody_of_isAnonymousBody hanonymous') hstart]
  · exact absurd (hplain.suffix hname) (TypeName.not_isPlain_anonymous body.start)

/-- **A plain name leads to a declaration with a plain name**, in whatever file. -/
theorem Opened.plain_of_get? (h : Opened synthesis edited added p)
    (hfiles : ∀ file ∈ edited :: added, file.WellFormed) (hty : ty.IsPlain)
    (hd : p.index.get? ty = some d) : d.kind ≠ .anonymousType ∧ d.typeName.IsPlain := by
  obtain ⟨hmem, k, hown, hk⟩ := h.shared_of_get? hd
  rw [← List.flatMap_cons] at hmem
  obtain ⟨file, hfile, hmem⟩ := List.mem_flatMap.mp hmem
  rcases declarationsOf_cases (hfiles file hfile) hmem with ⟨body, above, -, -, rfl⟩ | hplain
  · -- a handle has no suffix but itself, and that is not plain
    obtain rfl : k = .anonymous body.start := TypeName.suffixes_anonymous.mp hk
    exact absurd (hty.suffix hown) (TypeName.not_isPlain_anonymous body.start)
  · exact hplain

/-- The method around a cursor returns a type with an erased name, if it returns one. -/
theorem exists_erased_of_located {depth offset : Nat} {m : EnclosingMethod} {returned : TypeName}
    (hm : ((Java.syntaxView edited.source.toList edited.root).nodeAt offset).bind
      ((Java.syntaxView edited.source.toList edited.root).enclosingMethod? depth) = some m)
    (hreturned : m.returnType.asType? = some returned) : ∃ written, returned = .erased written := by
  obtain ⟨site, -, hascent⟩ := Option.bind_eq_some_iff.mp hm
  obtain ⟨method, -, -, hat⟩ := (Java.enclosingMethod?_eq_some_iff depth).mp hascent
  rw [Java.methodAt?] at hat
  split at hat
  · obtain rfl := Option.some.inj hat
    exact Java.exists_erased_of_returnTypeOf hreturned
  · exact absurd hat.symm (Option.some_ne_none _)

/-- **Handles of anonymous types stay apart from the names that are written.**  The handle of every
    body without a name in the edited file leads to the declaration of that body, whatever files are
    added.  An erased name is no handle and never leads to an anonymous type.  So the target of an
    analysis is never anonymous, and it is what the snippet creates.  This holds for all files with
    well formed trees, and those of all texts are. -/
theorem anonymous_handles_stay_apart :
    (∀ file, (parsed file).WellFormed)
    ∧ ∀ (config : Config) (edited : ParsedFile) (siblings : List ParsedFile),
        (∀ file ∈ edited :: siblings, file.WellFormed) →
        (∀ body above, Java.Place edited.root body above →
          Java.isAnonymousBody body above = true →
          (Java.anonymousDeclaration edited.source.toList body).withOrigin edited.path
              ∈ declarationsOf (synthesisOf config) edited
            ∧ (ofFiles config edited siblings).index.get? (.anonymous body.start)
              = some ((Java.anonymousDeclaration edited.source.toList body).withOrigin edited.path))
        ∧ (∀ written, (TypeName.erased written).isAnonymous = false
            ∧ ∀ d, (ofFiles config edited siblings).index.get? (.erased written) = some d →
              d.kind ≠ .anonymousType ∧ d.typeName.isAnonymous = false)
        ∧ ∀ (settings : Config) (offset : Nat) (a : Analysis),
            (ofFiles config edited siblings).analyze settings offset = .ok a →
            a.context.target.isAnonymous = false
            ∧ ∃ target, (ofFiles config edited siblings).index.get? a.context.target = some target
              ∧ target.kind ≠ .anonymousType
              ∧ a.generated.target = a.context.target
              ∧ a.generated.text = Snippet.render a.generated.mode a.context.target.name
                  a.generated.matched settings.renderOptions := by
  refine ⟨wellFormed_parsed, fun config edited siblings hfiles => ?_⟩
  have hedited := hfiles edited List.mem_cons_self
  have hopened := opened_ofFiles config edited siblings
  refine ⟨fun body above hbody hanonymous => ⟨?_, ?_⟩, fun written => ⟨?_, fun d hd => ?_⟩, ?_⟩
  · exact mem_declarationsOf_of_anonymous hedited.shaped hbody hanonymous _
  · exact hopened.get?_anonymous hedited hbody hanonymous
  · exact (TypeName.erased_isPlain written).isAnonymous_eq_false
  · obtain ⟨hkind, hplain⟩ := hopened.plain_of_get? hfiles (TypeName.erased_isPlain written) hd
    exact ⟨hkind, hplain.isAnonymous_eq_false⟩
  · intro settings offset a hok
    obtain ⟨m, target, source, hresolves, rfl⟩ := (analyze_eq_ok_iff hopened.holds.stable).mp hok
    obtain ⟨returned, hreturned, htarget⟩ := Option.bind_eq_some_iff.mp hresolves.target_eq
    have hmethod := hresolves.method_eq
    rw [hopened.view_eq] at hmethod
    obtain ⟨written, rfl⟩ := exists_erased_of_located hmethod hreturned
    obtain ⟨hkind, hplain⟩ :=
      hopened.plain_of_get? hfiles (TypeName.erased_isPlain written) htarget
    exact ⟨hplain.isAnonymous_eq_false, target, hopened.holds.stable _ _ htarget, hkind, rfl, rfl⟩

/-- A file with an anonymous type whose body starts at the offset 28. -/
def anonymousInMethod : ParsedFile :=
  parsed ⟨"A.java", "class A\x7bA m()\x7breturn new A()\x7bint x;\x7d;\x7d\x7d"⟩

/-- Another file with an anonymous type at the same offset. -/
def anonymousInSibling : ParsedFile :=
  parsed ⟨"B.java", "class B\x7bB m()\x7breturn new B()\x7bint y;\x7d;\x7d\x7d"⟩

/-- A handle leads to the type of the edited file, although another file has an anonymous type at the
    same offset, and at the method around both the target is the class. -/
theorem anonymous_handle_beside_sibling :
    (∃ d, (ofFiles .default anonymousInMethod [anonymousInSibling]).index.get? (.anonymous 28) = some d
      ∧ d.origin = some "A.java" ∧ d.kind = .anonymousType)
    ∧ (∃ d, (ofFiles .default anonymousInMethod [anonymousInSibling]).index.get? (.erased "A<B>")
        = some d ∧ d.kind ≠ .anonymousType)
    ∧ ∃ a, (ofFiles .default anonymousInMethod [anonymousInSibling]).analyze .default 15 = .ok a
      ∧ a.context.target.isAnonymous = false := by
  obtain ⟨hsite, herased, hok⟩ :
      (Java.siteAt (Text.byteLength anonymousInMethod.source.toList) anonymousInMethod.root
          28).map (fun site =>
            (Java.isAnonymousBody site.node site.above, site.node.start)) = some (true, 28)
      ∧ ((ofFiles .default anonymousInMethod [anonymousInSibling]).index.get?
          (.erased "A<B>")).isSome = true
      ∧ ((ofFiles .default anonymousInMethod [anonymousInSibling]).analyze .default
          15).toOption.isSome = true := by
    decide +kernel
  obtain ⟨hparsed, hapart⟩ := anonymous_handles_stay_apart
  have hfiles : ∀ file ∈ [anonymousInMethod, anonymousInSibling], file.WellFormed :=
    List.forall_mem_cons.mpr ⟨hparsed _, List.forall_mem_singleton.mpr (hparsed _)⟩
  obtain ⟨hhandles, herasure, hanalyze⟩ :=
    hapart .default anonymousInMethod [anonymousInSibling] hfiles
  refine ⟨?_, ?_, ?_⟩
  · obtain ⟨site, hat, hbody⟩ := Option.map_eq_some_iff.mp hsite
    obtain ⟨hanonymous, hstart⟩ := Prod.mk.inj hbody
    have hget := (hhandles _ _ (Java.place_of_siteAt hat) hanonymous).2
    rw [hstart] at hget
    exact ⟨_, hget, rfl, rfl⟩
  · obtain ⟨d, hd⟩ := Option.isSome_iff_exists.mp herased
    exact ⟨d, hd, ((herasure "A<B>").2 d hd).1⟩
  · obtain ⟨a, ha⟩ := Option.isSome_iff_exists.mp hok
    obtain ⟨a', ha', rfl⟩ := ok_of_toOption_map (f := id) (by rw [ha]; rfl)
    exact ⟨_, ha', (hanalyze .default 15 _ ha').1⟩

end BeanMapper.Project
