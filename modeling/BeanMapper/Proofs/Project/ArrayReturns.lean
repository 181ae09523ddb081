import BeanMapper.Proofs.Analysis.Verdict
import BeanMapper.Proofs.Names.Erasure
import BeanMapper.Proofs.Project.AnonymousTypes

/-!
# Array returns — which brackets reach the index

    Array brackets may stand behind a type or behind the parameters of a method.
    Only the type is erased, so only the first kind reaches the index:

    * `lastSegment_rawName` says that the brackets of a type stay in the last
      segment of its erased name;
    * `bracket_notMem_simpleName` says that no declaration of any text has a
      bracket in its simple name, since it is named by a word or by a handle;
    * `analyze_unresolvable_iff_of_within` says when the two types of a method
      cannot be resolved, whatever it stands in;
    * `array_return_unresolvable_iff`: **brackets behind the type keep a method
      from being mapped, and brackets behind its parameters do not count.** -/

namespace BeanMapper

namespace Text

variable {cs : List Char}

/-- A text without dots is a single segment. -/
theorem lastSegment_of_notMem (h : '.' ∉ cs) : lastSegment cs = cs := by
  rw [lastSegment, List.takeWhile_eq_self_iff.mpr, List.reverse_reverse]
  intro c hc
  simpa using ne_of_mem_of_not_mem (List.mem_reverse.mp hc) h

end Text

namespace Java

/-! ## Simple names of written types -/

variable {first next : Segment} {more : List Segment} {dimensions : Nat}

theorem bracket_chars {c : Char} (h : c ∈ (List.replicate dimensions ['[', ']']).flatten) :
    c = '[' ∨ c = ']' := by
  obtain ⟨pair, hpair, hc⟩ := List.mem_flatten.mp h
  rw [List.eq_of_mem_replicate hpair] at hc
  simpa using hc

/-- The segments behind the first one have a raw name of their own. -/
theorem rawName_cons : WrittenType.rawName ⟨first, next :: more, dimensions⟩
    = first.name.chars ++ '.' :: WrittenType.rawName ⟨next, more, dimensions⟩ := by
  simp [WrittenType.rawName, Text.joinWith, List.flatMap_map]

/-- The last segment of a raw name is the last name with the brackets behind it; by induction on the
    segments. -/
theorem lastSegment_rawName : Text.lastSegment (WrittenType.rawName ⟨first, more, dimensions⟩)
    = (WrittenType.lastName ⟨first, more, dimensions⟩).chars
      ++ (List.replicate dimensions ['[', ']']).flatten := by
  induction more generalizing first with
  | nil =>
      have hraw : WrittenType.rawName ⟨first, [], dimensions⟩
          = first.name.chars ++ (List.replicate dimensions ['[', ']']).flatten := by
        simp [WrittenType.rawName, Text.joinWith]
      rw [hraw, Text.lastSegment_of_notMem]
      · rfl
      · rw [List.mem_append, not_or]
        exact ⟨first.name.isWord.dot_notMem, fun hdot => absurd (bracket_chars hdot) (by decide)⟩
  | cons next more ih =>
      have hdot : ('.' :: WrittenType.rawName ⟨next, more, dimensions⟩)
          <:+ WrittenType.rawName ⟨first, next :: more, dimensions⟩ :=
        ⟨first.name.chars, rawName_cons.symm⟩
      rw [Text.lastSegment_of_dot_suffix hdot, ih]
      rfl

/-- The simple name of a type that is no array is its last name. -/
theorem simpleName_of_plain {t : WrittenType} (h : t.dimensions = 0) :
    TypeName.simpleName ⟨String.ofList t.rawName⟩ = String.ofList t.lastName.chars := by
  cases t with
  | mk first more dimensions =>
      obtain rfl : dimensions = 0 := h
      rw [TypeName.simpleName, String.toList_ofList, lastSegment_rawName]
      simp

/-- The simple name of an array type has a bracket in it. -/
theorem bracket_mem_simpleName {t : WrittenType} (h : 0 < t.dimensions) :
    ']' ∈ (TypeName.simpleName ⟨String.ofList t.rawName⟩).toList := by
  cases t with
  | mk first more dimensions =>
      obtain ⟨fewer, rfl⟩ : ∃ fewer, dimensions = fewer + 1 := ⟨dimensions - 1, by
        have : 0 < dimensions := h
        omega⟩
      rw [TypeName.simpleName, String.toList_ofList, String.toList_ofList, lastSegment_rawName,
        List.replicate_succ, List.flatten_cons]
      simp

/-! ## Simple names of declarations -/

variable {source : List Char} {root n : Node} {above : List Node} {s : Synthesis}

/-- A name of its own is the simple name of a type, wherever that stands. -/
theorem Standing.simpleName_nameOf (st : Standing) {own : String} (h : '.' ∉ own.toList) :
    (st.nameOf own).simpleName = own := by
  have hown : TypeName.simpleName ⟨own⟩ = own := by
    rw [TypeName.simpleName, Text.lastSegment_of_notMem h, String.ofList_toList]
  cases st with
  | under type => exact hown
  | aside => exact hown
  | inside type =>
      cases type with
      | none => exact hown
      | some outer =>
          refine .trans (TypeName.simpleName_eq_of_mem (TypeName.mem_suffixes_iff.mpr (.inr ?_))).symm
            hown
          show ('.' :: own.toList) <:+ (outer.name ++ "." ++ own).toList
          simp only [String.toList_append, List.append_assoc]
          exact List.suffix_append _ _

/-- **No declaration has a bracket in its simple name.** -/
theorem bracket_notMem_simpleName (hshaped : Shaped root) (hroot : Laid source root)
    {d : Declaration} (hd : d ∈ declarationsIn source s [] root) :
    ']' ∉ d.typeName.simpleName.toList := by
  obtain ⟨n, above, h, hd⟩ := exists_place_of_mem .root hd
  cases hkind : n.kind.declaresType with
  | false =>
      obtain ⟨body, -, -, rfl⟩ := anonymousBody_of_declarationAt? (h.shaped hshaped) hkind hd
      -- the only suffix of a handle is the handle itself
      have hself : ⟨(TypeName.anonymous body.start).simpleName⟩ = TypeName.anonymous body.start :=
        TypeName.suffixes_anonymous.mp (TypeName.simpleName_mem _)
      have hname : (TypeName.anonymous body.start).simpleName = (TypeName.anonymous body.start).name :=
        congrArg TypeName.name hself
      show ']' ∉ (TypeName.anonymous body.start).simpleName.toList
      rw [hname, TypeName.toList_anonymous, List.mem_append, List.mem_append]
      rintro (hmark | hdigit | hclose)
      · exact absurd hmark (by decide)
      · exact absurd (Nat.isDigit_of_mem_toDigits (by decide) (by decide) hdigit) (by decide)
      · exact absurd hclose (by decide)
  | true =>
      obtain ⟨k, hk⟩ := Place.declarationKind?_of_declaresType hkind
      simp only [declarationAt?, hk, Option.map_eq_some_iff] at hd
      obtain ⟨name, hname, rfl⟩ := hd
      obtain ⟨own, hown, rfl⟩ := h.declaredName?_eq hshaped hkind hname
      have hword := isWord_ownName? (h.shaped hshaped) (h.laid hroot)
        (Kind.bearsName_of_declaresType hkind) hown
      rw [typeName_namedDeclaration, Standing.simpleName_nameOf _ hword.dot_notMem]
      exact hword.bracket_notMem

end Java

namespace Project

variable {synthesis : Java.Synthesis} {edited file : ParsedFile} {siblings : List ParsedFile}

/-! ## Methods -/

/-- No declaration of a file has a bracket in its simple name. -/
theorem bracket_notMem_of_mem_declarationsOf {d : Declaration} (hfile : file.WellFormed)
    (hd : d ∈ declarationsOf synthesis file) : ']' ∉ d.typeName.simpleName.toList := by
  obtain ⟨plain, hplain, rfl⟩ := List.mem_map.mp hd
  -- the path of the file changes nothing of the name
  show ']' ∉ plain.typeName.simpleName.toList
  exact Java.bracket_notMem_simpleName hfile.shaped hfile.laid hplain

/-- At a method that returns a type, an analysis fails to resolve its two types exactly if the method
    belongs to no type or nothing that is declared has the simple name of the returned one. -/
theorem analyze_unresolvable_iff_of_within (config settings : Config)
    (siblings : List ParsedFile) {method : Java.Site} {returned : Java.Node} {offset : Nat}
    (hroot : Java.Shaped edited.root) (hplace : Java.Place edited.root method.node method.above)
    (hkind : method.node.kind = .methodDeclaration)
    (hreturned : method.node.child? .type = some returned) (hvoid : returned.kind ≠ .voidType)
    (hwithin : Java.MethodWithin (Text.byteLength edited.source.toList) edited.root offset
      settings.maxAscentDepth.toNat method) :
    (ofFiles config edited siblings).analyze settings offset = .error .unresolvableType ↔
      Java.enclosingName? edited.source.toList method.above = none
        ∨ ∀ e ∈ declarationsOf (synthesisOf config) edited
              ++ siblings.flatMap (declarationsOf (synthesisOf config)),
            e.typeName.simpleName
              ≠ (TypeName.erased (returned.words edited.source.toList)).simpleName := by
  have hopened := opened_ofFiles config edited siblings
  obtain ⟨t, hchild, htype⟩ := Java.returnTypeOf_eq (hplace.shaped hroot) hkind edited.source.toList
  obtain rfl : returned = t := Option.some.inj (hreturned.symm.trans hchild)
  have hlocated := Java.enclosingMethod?_of_within hwithin
  rw [← hopened.view_eq] at hlocated
  cases hname : Java.enclosingName? edited.source.toList method.above with
  | none =>
      refine iff_of_true ?_ (.inl rfl)
      rw [analyze, analyze_eq_error_iff hopened.holds.stable, locate, hlocated]
      exact EnclosingMethod.context_of_unresolvable (htype hvoid) (.inr (.inl hname))
  | some name =>
      -- the type around the method is declared, so only the returned one can be missing
      obtain ⟨body, owner, d, hencloses, rfl⟩ := hplace.declaring hroot (synthesisOf config) hname
      have hdeclared : d.withOrigin edited.path ∈ declarationsOf (synthesisOf config) edited :=
        List.mem_map.mpr ⟨d, hencloses.place.mem_declarationsIn hencloses.declared, rfl⟩
      rw [hopened.analyze_unresolvable_iff hlocated (htype hvoid) hdeclared hname]
      exact (or_iff_right (Option.some_ne_none _)).symm

/-- A method with a type that is written as `t` returns an array: there are brackets behind the type
    or behind the parameters. -/
def ReturnsArray (method : Java.Node) (t : Java.WrittenType) : Prop :=
  0 < t.dimensions ∨ ∃ c ∈ method.children, c.kind = .dimensions

/-- **Of the brackets of a method only those behind its type count.**  Where the type is written as
    `t`, an analysis anywhere in the method fails to resolve its types exactly if `t` has brackets,
    if the method belongs to no type, or if no declaration goes by the last name of `t`.  So a method
    that returns an array is mapped like one that returns an element of it where the brackets stand
    behind the parameters.  This holds for all files with well formed trees, and those of all texts
    are. -/
theorem array_return_unresolvable_iff (config settings : Config) (edited : ParsedFile)
    (siblings : List ParsedFile) (method : Java.Site) (returned : Java.Node) (t : Java.WrittenType)
    (offset : Nat) :
    (∀ file, (parsed file).WellFormed)
    ∧ ((∀ file ∈ edited :: siblings, file.WellFormed) →
        Java.Place edited.root method.node method.above → method.node.kind = .methodDeclaration →
        method.node.child? .type = some returned → returned.kind ≠ .voidType →
        Java.Prints t.tokens (returned.words edited.source.toList).toList →
        Java.MethodWithin (Text.byteLength edited.source.toList) edited.root offset
          settings.maxAscentDepth.toNat method →
        ((ofFiles config edited siblings).analyze settings offset = .error .unresolvableType ↔
          0 < t.dimensions
            ∨ Java.enclosingName? edited.source.toList method.above = none
            ∨ ∀ e ∈ declarationsOf (synthesisOf config) edited
                  ++ siblings.flatMap (declarationsOf (synthesisOf config)),
                e.typeName.simpleName ≠ String.ofList t.lastName.chars)) := by
  refine ⟨wellFormed_parsed, ?_⟩
  intro hfiles hplace hkind hreturned hvoid hprints hwithin
  have hroot := (hfiles edited List.mem_cons_self).shaped
  rw [analyze_unresolvable_iff_of_within config settings siblings hroot hplace hkind hreturned hvoid
    hwithin, Java.erased_of_prints t _ hprints]
  by_cases harray : 0 < t.dimensions
  · -- the bracket in the simple name of the type is in that of no declaration
    refine iff_of_true (.inr fun e he heq => ?_) (.inl harray)
    have hmem := Java.bracket_mem_simpleName harray
    rw [← heq] at hmem
    rw [← List.flatMap_cons] at he
    obtain ⟨file, hfile, he⟩ := List.mem_flatMap.mp he
    exact bracket_notMem_of_mem_declarationsOf (hfiles file hfile) he hmem
  · rw [Java.simpleName_of_plain (Nat.eq_zero_of_not_pos harray)]
    exact (or_iff_right harray).symm

/-- The name of the type in front of the brackets. -/
def elementName : Java.Word := ⟨['B'], by decide +kernel⟩

/-- The name of its type argument. -/
def argumentName : Java.Word := ⟨['A'], by decide +kernel⟩

/-- A file with a method that has brackets behind its type. -/
def bracketsBehindType : ParsedFile :=
  parsed ⟨"A.java", "class A\x7bB<A>[] m()\x7b\x7d\x7dclass B\x7b\x7d"⟩

/-- The method returns an array and is not mapped, although the type of its elements is declared. -/
theorem array_return_of_brackets_behind_type :
    ∃ (method : Java.Site) (t : Java.WrittenType),
      Java.Place bracketsBehindType.root method.node method.above
      ∧ method.node.kind = .methodDeclaration ∧ ReturnsArray method.node t
      ∧ Java.MethodWithin (Text.byteLength bracketsBehindType.source.toList)
          bracketsBehindType.root 16 Config.default.maxAscentDepth.toNat method
      ∧ (ofFiles .default bracketsBehindType []).analyze .default 16
          = .error .unresolvableType := by
  have hfound : (Java.siteAt (Text.byteLength bracketsBehindType.source.toList)
      bracketsBehindType.root 16).bind (fun site =>
        (Java.nearestMethod? (site.node :: site.above)).map fun method =>
          (decide (site.above.length ≤ Config.default.maxAscentDepth.toNat + method.above.length),
            method.node.kind,
            (method.node.child? .type).map fun t =>
              (t.kind, t.words bracketsBehindType.source.toList)))
      = some (true, .methodDeclaration, some (.arrayType, "B<A>[]")) := by
    decide +kernel
  obtain ⟨method, hplace, hwithin, hseen⟩ := Java.exists_methodWithin hfound
  simp only [Prod.mk.injEq, Option.map_eq_some_iff] at hseen
  obtain ⟨hkind, returned, hreturned, htype, hwords⟩ := hseen
  let t : Java.WrittenType := ⟨.generic elementName [.type ⟨.plain argumentName, [], 0⟩], [], 1⟩
  have hprints : Java.Prints t.tokens (returned.words bracketsBehindType.source.toList).toList := by
    rw [hwords]
    exact .token [] rfl <| .token [] rfl <| .token [] rfl <| .token [] rfl <| .token [] rfl <|
      .token [] rfl <| .done [] rfl
  refine ⟨method, t, hplace, hkind, .inl Nat.one_pos, hwithin, ?_⟩
  obtain ⟨hparsed, hiff⟩ :=
    array_return_unresolvable_iff .default .default bracketsBehindType [] method returned t 16
  refine (hiff (List.forall_mem_singleton.mpr (hparsed _)) hplace hkind hreturned ?_ hprints
    hwithin).mpr (.inl Nat.one_pos)
  rw [htype]
  decide

/-- A file with a method that has brackets behind its parameters. -/
def bracketsBehindParameters : ParsedFile :=
  parsed ⟨"A.java", "class A\x7bB m()[]\x7b\x7d\x7dclass B\x7b\x7d"⟩

/-- The method returns an array and is mapped as if it returned an element of it. -/
theorem array_return_of_brackets_behind_parameters :
    ∃ (method : Java.Site) (returned : Java.Node) (t : Java.WrittenType),
      Java.Place bracketsBehindParameters.root method.node method.above
      ∧ method.node.kind = .methodDeclaration ∧ ReturnsArray method.node t
      ∧ method.node.child? .type = some returned
      ∧ Java.Prints t.tokens (returned.words bracketsBehindParameters.source.toList).toList
      ∧ Java.MethodWithin (Text.byteLength bracketsBehindParameters.source.toList)
          bracketsBehindParameters.root 11 Config.default.maxAscentDepth.toNat method
      ∧ ∃ a, (ofFiles .default bracketsBehindParameters []).analyze .default 11 = .ok a
        ∧ a.context.target = ⟨"B"⟩ := by
  obtain ⟨hfound, hmapped⟩ : (Java.siteAt (Text.byteLength bracketsBehindParameters.source.toList)
      bracketsBehindParameters.root 11).bind (fun site =>
        (Java.nearestMethod? (site.node :: site.above)).map fun method =>
          (decide (site.above.length ≤ Config.default.maxAscentDepth.toNat + method.above.length),
            method.node.kind, method.node.children.any (·.kind == .dimensions),
            (method.node.child? .type).map (·.words bracketsBehindParameters.source.toList)))
      = some (true, .methodDeclaration, true, some "B")
      ∧ ((ofFiles .default bracketsBehindParameters []).analyze .default 11).toOption.map
          (·.context.target) = some ⟨"B"⟩ := by
    decide +kernel
  obtain ⟨method, hplace, hwithin, hseen⟩ := Java.exists_methodWithin hfound
  simp only [Prod.mk.injEq, List.any_eq_true, beq_iff_eq, Option.map_eq_some_iff] at hseen
  obtain ⟨hkind, hbrackets, returned, hreturned, hwords⟩ := hseen
  have hprints : Java.Prints (Java.WrittenType.mk (.plain elementName) [] 0).tokens
      (returned.words bracketsBehindParameters.source.toList).toList := by
    rw [hwords]
    exact .token [] rfl (.done [] rfl)
  exact ⟨method, returned, _, hplace, hkind, .inr hbrackets, hreturned, hprints, hwithin,
    ok_of_toOption_map hmapped⟩

end Project

end BeanMapper
