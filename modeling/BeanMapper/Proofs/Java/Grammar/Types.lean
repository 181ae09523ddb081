import BeanMapper.Java.Grammar.Types
import BeanMapper.Proofs.Java.Reads

/-! # Types — what the rules for names and types give

    A name is a single word (`yieldsOne_identifier`, `yieldsOne_declaredName`).
    Scoped names and types are nodes of which nothing is asked. -/

namespace BeanMapper.Java.Grammar

open BeanMapper.Java.Parser

/-! ## Names -/

/-- A word is read as an identifier. -/
theorem reads_leaf_identifier {r : Reader} (h : r.rest[0]?.map (·.shape) = some .word) :
    Reads r (leaf .identifier) fun r' n => Part (IsHead .identifier .none) r r' [n] := by
  refine .node rfl ((reads_token r).bind fun r₁ t ⟨⟨hrest, hlast⟩, _⟩ => .pure ?_)
  refine ⟨⟨r₁, .of_token hrest hlast, .nil (.refl r₁), fun hb => absurd hb (by decide)⟩, rfl, ?_, ?_,
    fun hn => absurd hn (by decide)⟩
  · exact .of_free rfl fun _ hx => absurd hx List.not_mem_nil
  · rw [hrest] at h
    exact fun _ => ⟨t, Option.some.inj h, hrest, hlast⟩

/-- A token that is a name is a word. -/
theorem shape_of_isName {t : Option Token} (h : isName t = true) : t.map (·.shape) = some .word := by
  cases t with
  | none => exact absurd h (by decide)
  | some t =>
      simp only [isName, Bool.and_eq_true, beq_iff_eq] at h
      exact congrArg some h.1

/-- Asking for a name reads no token. -/
theorem looks_atName : Looks atName := .bind looks_next? fun _ => .pure _

/-- A name is one node of the kind that is asked for, if nothing is asked of that kind. -/
theorem yieldsOne_nameAs {kind : Kind} (hkind : kind.isOrdinary = true) :
    YieldsOne Plain (nameAs kind) :=
  fun r => .look looks_atName fun _ => .look (.test _) fun _ => yieldsOne_leaf hkind r

/-- A name is an identifier over a single word, since it is tested before it is read. -/
theorem yieldsOne_identifier : YieldsOne (IsHead .identifier .none) identifier := by
  intro r
  have hat : Reads r atName fun r' b => r' = r ∧ b = isName r.rest[0]? :=
    Reads.next?.bind fun _ _ ⟨hr, ht⟩ => .pure ⟨hr, by rw [ht]⟩
  refine hat.bind fun r₁ b ⟨hr, hb⟩ => ?_
  subst hr hb
  exact .guarded fun h => reads_leaf_identifier (shape_of_isName h)

/-- A declared name is an identifier over a single word, also where the word is reserved. -/
theorem yieldsOne_declaredName : YieldsOne (IsHead .identifier .none) declaredName := by
  intro r
  refine Reads.next?.bind fun r₁ t ⟨hr, ht⟩ => ?_
  subst hr ht
  exact .guarded fun h => reads_leaf_identifier (beq_iff_eq.mp h)

/-- A scoped name is one node, however many names follow the first. -/
theorem yieldsOne_scopedName : YieldsOne Plain scopedName := by
  refine yieldsOne_identifier.plain.grow fun r₀ r n hn => .after (ρ := Plain) hn rfl ?_
  refine .look (.ahead? 0) fun _ => .look (.ahead? 1) fun _ => .look (.test _) fun _ => ?_
  refine (skips_symbol "." r).bind fun r₁ _ h₁ => ?_
  exact (yieldsOne_identifier.plain.one r₁).mono fun _ _ h => h.skip h₁

/-! ## Types -/

/-- Asking for an annotation reads no token. -/
theorem looks_atAnnotation : Looks atAnnotation := looks_atSymbol "@"

/-- Annotations are nodes in no role, each of them a goal of its own. -/
theorem yields_annotations : Yields Plain annotations := (yields_reach rfl).many looks_atAnnotation

/-- A wildcard is one node, with a bound or without. -/
theorem yieldsOne_wildcard : YieldsOne Plain wildcard := by
  refine Yields.span (ρ := Plain) (fun r => ?_) rfl
  refine (yields_annotations r).bind fun r₁ marks h₁ => ?_
  refine (skips_symbol "?" r₁).bind fun r₂ _ h₂ => ?_
  refine (skips_tryWord "extends" r₂).bind fun r₃ _ h₃ => ?_
  have h := h₂.trans h₃
  split
  · refine (yields_reach rfl r₃).bind fun r₄ bound h₄ => ?_
    exact .pure (h₁.append (h₄.skip h))
  · refine .look (looks_atWord "super") fun _ => ?_
    split
    · refine (yieldsOne_leaf rfl r₃).bind fun r₄ word h₄ => ?_
      refine (yields_reach rfl r₄).bind fun r₅ bound h₅ => ?_
      exact .pure (h₁.append ((h₄.append h₅).skip h))
    · exact .pure (h₁.stop h)

/-- Type arguments are one node over types and wildcards. -/
theorem yieldsOne_typeArguments : YieldsOne Plain typeArguments := by
  refine Yields.span (ρ := Plain) (fun r => ?_) rfl
  have hitem : Yields Plain (do if ← atWildcard then one wildcard else reach .type) := by
    refine fun r => .look (.canRead _) fun _ => ?_
    split
    · exact yieldsOne_wildcard.one r
    · exact yields_reach rfl r
  refine (skips_symbol "<" r).bind fun r₁ _ h₁ => ?_
  exact (hitem.listUntil ">" r₁).mono fun _ _ h => h.skip h₁

/-- A name of a type grows by arguments and by names of member types. -/
theorem grows_typeSuffix : Grows typeSuffix := by
  intro r₀ r n hn
  refine .look (looks_atSymbol "<") fun _ => ?_
  split
  · exact .look (.test _) fun _ => .after hn rfl (yieldsOne_typeArguments.one r)
  · refine .after (ρ := Plain) hn rfl ?_
    refine (skips_symbol "." r).bind fun r₁ _ h₁ => ?_
    refine (yields_annotations r₁).bind fun r₂ marks h₂ => ?_
    refine (yieldsOne_nameAs rfl r₂).bind fun r₃ name h₃ => ?_
    exact .pure ((h₂.append h₃).skip h₁)

/-- The words for primitive types have kinds of which nothing is asked, and stand for no
    annotations. -/
theorem plain_of_primitiveKind? {t : Option Token} {kind : Kind}
    (h : primitiveKind? t = some kind) : kind.isOrdinary = true ∧ kind ≠ .annotatedType := by
  cases t with
  | none => exact nomatch h
  | some t =>
      simp only [primitiveKind?] at h
      split at h
      · have hall : ∀ entry ∈ primitiveWords,
            entry.2.isOrdinary = true ∧ entry.2 ≠ .annotatedType := by decide
        obtain ⟨l₁, l₂, hl, -⟩ := List.lookup_eq_some_iff.mp h
        exact hall (t.text, kind) (by rw [hl]; simp)
      · exact nomatch h

/-- A type without dimensions is one node: a primitive word, or a name that grows. -/
theorem yieldsOne_simpleType : YieldsOne Plain simpleType := by
  refine fun r => .look looks_next? fun t => ?_
  split
  · exact yieldsOne_leaf (plain_of_primitiveKind? ‹_›).1 r
  · exact (yieldsOne_nameAs rfl).grow grows_typeSuffix r

/-- No type without dimensions is a type with annotations in front. -/
theorem gives_simpleType : Gives simpleType fun n => n.kind ≠ .annotatedType := by
  have hsuffix (n : Node) : Gives (typeSuffix n) fun m => m.kind ≠ .annotatedType := by
    refine .last fun b => ?_
    split
    · exact .last fun _ => Gives.after.mono fun m hm => by rw [hm]; decide
    · exact Gives.after.mono fun m hm => by rw [hm]; decide
  refine .last fun t => ?_
  split
  · rename_i kind hkind
    refine Gives.span.mono fun n hn => ?_
    rw [hn]
    exact (plain_of_primitiveKind? hkind).2
  · have hname : Gives (nameAs .typeIdentifier) fun n => n.kind ≠ .annotatedType :=
      .last fun _ => .last fun _ => Gives.span.mono fun n hn => by rw [hn]; decide
    refine .bind hname fun n hn goals r => ?_
    exact Gives.growUpTo hsuffix (r.rest.length + 1) n hn goals r

/-- Asking for a pair of brackets reads no token. -/
theorem looks_atDimension : Looks atDimension := .canRead _

/-- All pairs of brackets together are one node. -/
theorem yieldsOne_dimensions : YieldsOne Plain dimensions := by
  have hpair : Yields Plain (do
      let marks ← annotations
      symbol "["
      symbol "]"
      return marks) := by
    intro r
    refine (yields_annotations r).bind fun r₁ marks h₁ => ?_
    refine (skips_symbol "[" r₁).bind fun r₂ _ h₂ => ?_
    refine (skips_symbol "]" r₂).bind fun r₃ _ h₃ => ?_
    exact .pure (h₁.stop (h₂.trans h₃))
  refine Yields.span (ρ := Plain) (fun r => ?_) rfl
  exact .look looks_atDimension fun _ => .look (.test _) fun _ => hpair.many looks_atDimension r

/-- Where no brackets stand there is no node for them. -/
theorem yields_dimensions? : Yields Plain dimensions? :=
  fun r => .look looks_atDimension fun b => yieldsOne_dimensions.one.onlyIf b r

/-- A type without annotations is one node: that of its element, or one around it and its
    dimensions. -/
theorem yieldsOne_unannotatedType : YieldsOne Plain unannotatedType := by
  intro r
  refine (yieldsOne_simpleType r).bind fun r₁ element h₁ => ?_
  refine .look looks_atDimension fun _ => ?_
  split
  · exact .after h₁ rfl (yieldsOne_dimensions.one r₁)
  · exact .pure h₁

/-- A type without annotations in front is no type with annotations in front. -/
theorem reads_unannotatedType (r : Reader) :
    Reads r unannotatedType fun r' n => Part Plain r r' [n] ∧ n.kind ≠ .annotatedType := by
  refine (yieldsOne_unannotatedType r).gives (.bind gives_simpleType fun element helement => ?_)
  refine .last fun b => ?_
  split
  · exact Gives.after.mono fun m hm => by rw [hm]; decide
  · exact .pure helement

/-- A type is one node, also with annotations in front. -/
theorem yieldsOne_type : YieldsOne Plain type := by
  refine fun r => .look looks_atAnnotation fun _ => ?_
  split
  · refine Yields.span (ρ := Plain) (fun r => ?_) rfl r
    refine (yields_annotations r).bind fun r₁ marks h₁ => ?_
    refine (yieldsOne_unannotatedType r₁).bind fun r₂ type h₂ => ?_
    exact .pure (h₁.append h₂)
  · exact yieldsOne_unannotatedType r

/-- A list of types is one node over them. -/
theorem yieldsOne_typeList : YieldsOne Plain typeList :=
  (yieldsOne_type.one.separatedBy ",").span rfl

/-! ## Type parameters -/

/-- A type parameter is one node over its annotations, its name and its bounds. -/
theorem yieldsOne_typeParameter : YieldsOne Plain typeParameter := by
  have hbound : YieldsOne Plain (span .typeBound do
      word "extends"
      separatedBy "&" (one type)) := by
    refine Yields.span (ρ := Plain) (fun r => ?_) rfl
    refine (skips_word "extends" r).bind fun r₁ _ h₁ => ?_
    exact (yieldsOne_type.one.separatedBy "&" r₁).mono fun _ _ h => h.skip h₁
  refine Yields.span (ρ := Plain) (fun r => ?_) rfl
  refine (yields_annotations r).bind fun r₁ marks h₁ => ?_
  refine (yieldsOne_nameAs rfl r₁).bind fun r₂ name h₂ => ?_
  refine .look (looks_atWord "extends") fun b => ?_
  refine (hbound.one.onlyIf b r₂).bind fun r₃ bounds h₃ => ?_
  exact .pure (h₁.append (h₂.append h₃))

/-- Type parameters are one node, from one angle bracket to the other. -/
theorem yieldsOne_typeParameters : YieldsOne Plain typeParameters := by
  refine Yields.span (ρ := Plain) (fun r => ?_) rfl
  refine (skips_symbol "<" r).bind fun r₁ _ h₁ => ?_
  refine (yieldsOne_typeParameter.one.separatedBy "," r₁).bind fun r₂ parameters h₂ => ?_
  refine (skips_symbol ">" r₂).bind fun r₃ _ h₃ => ?_
  exact .pure ((h₂.skip h₁).stop h₃)

/-- Where no angle bracket stands there is no node for type parameters. -/
theorem yields_typeParameters? : Yields Plain typeParameters? :=
  fun r => .look (looks_atSymbol "<") fun b => yieldsOne_typeParameters.one.onlyIf b r

end BeanMapper.Java.Grammar
