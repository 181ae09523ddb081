import BeanMapper.Mapping.Analysis
import BeanMapper.Proofs.Index.Lookup

/-! # Resolution — one analysis resolves its two types twice

    Locating resolves the written names and keeps only the names of what it
    finds; the analysis looks these names up again.  In an index names are
    ambiguous, so the second answer is the first one for a reason:

    * `Resolves` names the method and the two declarations of a cursor;
    * `Stable` says of a way to look names up that the name of what was found
      finds it again, and is all that the analysis needs (`analyze_eq_ok_iff`,
      `analyze_eq_error_iff`);
    * `Holds.position?_declared` shows that every index is stable, since a name
      with a longer suffix has all the shorter ones as well;
    * `analysis_agrees_with_locating` is the law for every run. -/

namespace BeanMapper

variable {Node : Type} {view : SyntaxView Node} {declarationOf : TypeName → Option Declaration}

/-- At a cursor stands a method, and its two types lead to two declarations. -/
structure Resolves (view : SyntaxView Node) (declarationOf : TypeName → Option Declaration)
    (maxDepth offset : Nat) (method : EnclosingMethod) (target source : Declaration) : Prop where
  /-- The method is the one around the cursor. -/
  method_eq : (view.nodeAt offset).bind (view.enclosingMethod? maxDepth) = some method
  /-- The declaration that the return type leads to. -/
  target_eq : method.returnType.asType?.bind declarationOf = some target
  /-- The declaration that the enclosing type leads to. -/
  source_eq : method.enclosingType.bind declarationOf = some source

/-- What locating keeps of a method and its two declarations. -/
def Resolves.context (method : EnclosingMethod) (target source : Declaration) : Context :=
  ⟨method.name, target.typeName, source.typeName⟩

/-- The context of a method is made of the two declarations that its types lead to. -/
theorem context_eq_ok_iff {method : EnclosingMethod} {context : Context} :
    method.context declarationOf = .ok context ↔
      ∃ target source, method.returnType.asType?.bind declarationOf = some target
        ∧ method.enclosingType.bind declarationOf = some source
        ∧ Resolves.context method target source = context := by
  rw [EnclosingMethod.context]
  cases method.returnType.asType? with
  | none =>
      constructor
      · intro h; exact nomatch h
      · rintro ⟨target, source, ht, -, -⟩
        exact nomatch ht
  | some returned =>
      dsimp only [Option.bind_some]
      cases ht : declarationOf returned with
      | none =>
          constructor
          · intro h; exact nomatch h
          · rintro ⟨target, source, ht', -, -⟩
            exact nomatch ht'
      | some target =>
          cases hs : method.enclosingType.bind declarationOf with
          | none =>
              constructor
              · intro h; exact nomatch h
              · rintro ⟨target, source, -, hs', -⟩
                exact nomatch hs'
          | some source =>
              constructor
              · intro h
                exact ⟨target, source, rfl, rfl, Except.ok.inj h⟩
              · rintro ⟨target', source', ht', hs', rfl⟩
                obtain rfl : target = target' := Option.some.inj ht'
                obtain rfl : source = source' := Option.some.inj hs'
                rfl

/-- Locating succeeds exactly where a method and two declarations are found. -/
theorem locate_eq_ok_iff {maxDepth offset : Nat} {context : Context} :
    locate view declarationOf maxDepth offset = .ok context ↔
      ∃ method target source, Resolves view declarationOf maxDepth offset method target source
        ∧ Resolves.context method target source = context := by
  rw [locate]
  cases hm : (view.nodeAt offset).bind (view.enclosingMethod? maxDepth) with
  | none =>
      constructor
      · intro h; exact nomatch h
      · rintro ⟨method, target, source, hr, -⟩
        rw [hr.method_eq] at hm
        exact nomatch hm
  | some method =>
      show method.context declarationOf = .ok context ↔ _
      rw [context_eq_ok_iff]
      constructor
      · rintro ⟨target, source, ht, hs, hc⟩
        exact ⟨method, target, source, ⟨hm, ht, hs⟩, hc⟩
      · rintro ⟨method', target, source, hr, hc⟩
        obtain rfl : method' = method := Option.some.inj (hr.method_eq.symm.trans hm)
        exact ⟨target, source, hr.target_eq, hr.source_eq, hc⟩

/-- A way to look names up is stable if the name of what was found finds it again. -/
def Stable (declarationOf : TypeName → Option Declaration) : Prop :=
  ∀ ty d, declarationOf ty = some d → declarationOf d.typeName = some d

/-- What an optional name leads to, its own name leads to. -/
theorem Stable.of_bind (hstable : Stable declarationOf) {name : Option TypeName} {d : Declaration}
    (h : name.bind declarationOf = some d) : declarationOf d.typeName = some d := by
  obtain ⟨ty, -, hty⟩ := Option.bind_eq_some_iff.mp h
  exact hstable ty d hty

/-- Where lookups are stable, an analysis is made of what locating resolved. -/
theorem analyze_of_resolves (hstable : Stable declarationOf) {config : Config} {offset : Nat}
    {method : EnclosingMethod} {target source : Declaration}
    (h : Resolves view declarationOf config.maxAscentDepth.toNat offset method target source) :
    analyze config view declarationOf offset
      = .ok ⟨Resolves.context method target source, generateFor config target source⟩ := by
  have hlocate : locate view declarationOf config.maxAscentDepth.toNat offset
      = .ok (Resolves.context method target source) :=
    locate_eq_ok_iff.mpr ⟨method, target, source, h, rfl⟩
  have htarget : declarationOf (Resolves.context method target source).target = some target :=
    hstable.of_bind h.target_eq
  have hsource : declarationOf (Resolves.context method target source).source = some source :=
    hstable.of_bind h.source_eq
  simp only [analyze, hlocate, htarget, hsource]

/-- Where lookups are stable, an analysis fails exactly as locating does. -/
theorem analyze_eq_error_iff (hstable : Stable declarationOf) {config : Config} {offset : Nat}
    {reason : Abort} :
    analyze config view declarationOf offset = .error reason ↔
      locate view declarationOf config.maxAscentDepth.toNat offset = .error reason := by
  cases hlocate : locate view declarationOf config.maxAscentDepth.toNat offset with
  | error e =>
      simp only [analyze, hlocate]
      constructor
      · intro h; rw [Except.error.inj h]
      · intro h; rw [Except.error.inj h]
  | ok context =>
      obtain ⟨method, target, source, hr, -⟩ := locate_eq_ok_iff.mp hlocate
      rw [analyze_of_resolves hstable hr]
      constructor
      · intro h; exact nomatch h
      · intro h; exact nomatch h

/-- Where lookups are stable, an analysis succeeds exactly where locating does, with the text for
    the two declarations that locating resolved. -/
theorem analyze_eq_ok_iff (hstable : Stable declarationOf) {config : Config} {offset : Nat}
    {a : Analysis} :
    analyze config view declarationOf offset = .ok a ↔
      ∃ method target source,
        Resolves view declarationOf config.maxAscentDepth.toNat offset method target source
        ∧ a = ⟨Resolves.context method target source, generateFor config target source⟩ := by
  constructor
  · intro hok
    cases hlocate : locate view declarationOf config.maxAscentDepth.toNat offset with
    | error e =>
        rw [(analyze_eq_error_iff hstable).mpr hlocate] at hok
        exact nomatch hok
    | ok context =>
        obtain ⟨method, target, source, hr, -⟩ := locate_eq_ok_iff.mp hlocate
        rw [analyze_of_resolves hstable hr] at hok
        exact ⟨method, target, source, hr, (Except.ok.inj hok).symm⟩
  · rintro ⟨method, target, source, hr, rfl⟩
    exact analyze_of_resolves hstable hr

namespace TypeIndex

/-- The name of what a lookup finds leads to the same position: a declaration before it with the
    whole name as a suffix would have had the shorter suffix as well. -/
theorem Holds.position?_declared {index : TypeIndex} {ds : List Declaration}
    (h : Holds index ds) {ty : TypeName} {d : Declaration} (hd : index.get? ty = some d) :
    index.position? d.typeName = index.position? ty := by
  obtain ⟨i, hi, hget⟩ := (h.get?_eq_some_iff d).mp hd
  obtain ⟨k, -, ⟨e, he, hk⟩, hfirst⟩ := (h.position?_eq_some_iff i).mp hi
  obtain rfl : d = e := Option.some.inj (hget.symm.trans he)
  have hname : FirstWith ds d.typeName i := by
    refine ⟨⟨d, hget, TypeName.self_mem_suffixes _⟩, ?_⟩
    intro j hj e' he' hmem
    exact hfirst j hj e' he' (TypeName.suffix_trans hk hmem)
  rw [hi]
  exact (h.position?_eq_some_iff i).mpr
    ⟨d.typeName, LongestShared.of_declared (List.mem_of_getElem? hget), hname⟩

/-- The lookups of an index are stable. -/
theorem Holds.stable {index : TypeIndex} {ds : List Declaration} (h : Holds index ds) :
    Stable index.get? := by
  intro ty d hd
  have hpos := h.position?_declared hd
  rw [get?, hpos]
  exact hd

end TypeIndex

/-- **The two resolutions of one analysis agree.**  In the index after any run, the name of what a
    lookup finds leads to that very registration.  So an analysis fails exactly where and why
    locating does, and else has its context, the two types of that context, and the text for the
    two declarations that locating resolved. -/
theorem analysis_agrees_with_locating (rs : List Registration) (config : Config)
    (view : SyntaxView Node) (offset : Nat) :
    (∀ ty d, (TypeIndex.run rs).get? ty = some d →
      (TypeIndex.run rs).get? d.typeName = some d
      ∧ (TypeIndex.run rs).position? d.typeName = (TypeIndex.run rs).position? ty)
    ∧ (∀ reason, analyze config view (TypeIndex.run rs).get? offset = .error reason ↔
        locate view (TypeIndex.run rs).get? config.maxAscentDepth.toNat offset = .error reason)
    ∧ (∀ context, locate view (TypeIndex.run rs).get? config.maxAscentDepth.toNat offset = .ok context ↔
        ∃ a, analyze config view (TypeIndex.run rs).get? offset = .ok a ∧ a.context = context)
    ∧ ∀ a, analyze config view (TypeIndex.run rs).get? offset = .ok a →
        a.generated.target = a.context.target ∧ a.generated.source = a.context.source
        ∧ ∃ method target source,
            Resolves view (TypeIndex.run rs).get? config.maxAscentDepth.toNat offset
              method target source
            ∧ a.context = Resolves.context method target source
            ∧ a.generated = generateFor config target source := by
  have h := TypeIndex.holds_run rs
  refine ⟨?_, fun reason => analyze_eq_error_iff h.stable, ?_, ?_⟩
  · intro ty d hd
    exact ⟨h.stable ty d hd, h.position?_declared hd⟩
  · intro context
    rw [locate_eq_ok_iff]
    constructor
    · rintro ⟨method, target, source, hr, hc⟩
      exact ⟨_, analyze_of_resolves h.stable hr, hc⟩
    · rintro ⟨a, ha, rfl⟩
      obtain ⟨method, target, source, hr, rfl⟩ := (analyze_eq_ok_iff h.stable).mp ha
      exact ⟨method, target, source, hr, rfl⟩
  · intro a ha
    obtain ⟨method, target, source, hr, rfl⟩ := (analyze_eq_ok_iff h.stable).mp ha
    exact ⟨rfl, rfl, method, target, source, hr, rfl, rfl⟩

end BeanMapper
