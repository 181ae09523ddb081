import BeanMapper.Java.Grammar.Annotations
import BeanMapper.Proofs.Java.Grammar.Types

/-! # Annotations — what the rules for annotations and modifiers give

    All of them give nodes of which nothing is asked.  Of modifiers it is also
    known what stands inside (`reads_modifiers?`), since the rule for a
    receiver takes it out again. -/

namespace BeanMapper.Java.Grammar

open BeanMapper.Java.Parser

/-! ## Annotations -/

/-- A pair is one node over its key and its value. -/
theorem yieldsOne_elementValuePair : YieldsOne Plain elementValuePair := by
  refine Yields.span (ρ := AnyHead) (fun r => ?_) rfl
  refine (yieldsOne_identifier.as .key r).bind fun r₁ key h₁ => ?_
  refine (skips_symbol "=" r₁).bind fun r₂ _ h₂ => ?_
  refine ((yieldsOne_reachOne rfl).as .value r₂).bind fun r₃ value h₃ => ?_
  exact .pure (h₁.join (h₃.skip h₂))

/-- The arguments of an annotation are one node over pairs, over a single value or over nothing. -/
theorem yieldsOne_annotationArguments : YieldsOne Plain annotationArguments := by
  refine Yields.span (ρ := Plain) (fun r => ?_) rfl
  refine (skips_symbol "(" r).bind fun r₁ _ h₁ => ?_
  refine .look (.bind (.ahead? 0) fun _ => .bind (.ahead? 1) fun _ => .pure _) fun _ => ?_
  split
  · exact (yieldsOne_elementValuePair.one.listUntil ")" r₁).mono fun _ _ h => h.skip h₁
  · refine (skips_trySymbol ")" r₁).bind fun r₂ _ h₂ => ?_
    split
    · exact .pure (.nil (h₁.trans h₂))
    · refine (yields_reach rfl r₂).bind fun r₃ value h₃ => ?_
      refine (skips_symbol ")" r₃).bind fun r₄ _ h₄ => ?_
      exact .pure ((h₃.skip (h₁.trans h₂)).stop h₄)

/-- An annotation is one node, of either kind: with arguments or as a mere marker. -/
theorem yieldsOne_annotation : YieldsOne Plain annotation := by
  refine Builds.spanOf fun r => ?_
  refine (skips_symbol "@" r).bind fun r₁ _ h₁ => ?_
  refine (yieldsOne_scopedName.as .name r₁).bind fun r₂ name h₂ => ?_
  refine .look (looks_atSymbol "(") fun b => ?_
  refine ((yieldsOne_annotationArguments.as .arguments).onlyIf b r₂).bind fun r₃ arguments h₃ => ?_
  refine .pure (.of_part ?_ ((h₂.skip h₁).join h₃))
  split
  · rfl
  · rfl

/-- A value is one node: an annotation, values in braces, or an expression. -/
theorem yieldsOne_elementValue : YieldsOne Plain elementValue := by
  refine fun r => .look looks_atAnnotation fun _ => ?_
  split
  · exact yieldsOne_reachOne rfl r
  · refine .look (looks_atSymbol _) fun _ => ?_
    split
    · refine Yields.span (ρ := Plain) (fun r => ?_) rfl r
      refine (skips_symbol _ r).bind fun r₁ _ h₁ => ?_
      exact ((yields_reach rfl).looseListUntil _ r₁).mono fun _ _ h => h.skip h₁
    · exact yieldsOne_reachOne rfl r

/-! ## Modifiers -/

/-- The length of a modifier is found by looking at three tokens at most. -/
theorem looks_modifierLength (inBlock : Bool) : Looks (modifierLength inBlock) := by
  refine .bind (.ahead? 0) fun t => ?_
  cases t with
  | none => exact .pure 0
  | some t =>
      refine .ite (.pure 0) (.ite (.pure 1) (.ite (.pure _) ?_))
      refine .bind (.ahead? 1) fun _ => .ite (.pure 1) ?_
      refine .bind (.ahead? 1) fun _ => .bind (.ahead? 2) fun _ => .ite (.pure 3) (.pure 0)

/-- Asking for a modifier reads no token. -/
theorem looks_atModifier (inBlock : Bool) : Looks (atModifier inBlock) :=
  .bind looks_atAnnotation fun _ => .bind (looks_modifierLength inBlock) fun _ => .pure _

/-- The kind of a keyword is asked for nothing but to have no parts. -/
theorem keywordKind_plain (t : Option Token) :
    (keywordKind t).isFree = true ∧ (keywordKind t).isOpen = true
      ∧ keywordKind t ≠ .identifier := by
  rw [keywordKind]
  split
  · decide
  · split
    · decide
    · decide

/-- A keyword is one node without children, also where it is of more than one token. -/
theorem yieldsOne_modifierKeyword (inBlock : Bool) : YieldsOne Plain (modifierKeyword inBlock) := by
  refine fun r => .look (looks_modifierLength inBlock) fun n => .look looks_next? fun t => ?_
  obtain ⟨hfree, hopen, hword⟩ := keywordKind_plain t
  have hkeyword : Reads r (do skip n; return []) (Fills (keywordKind t) r) :=
    (skips_skip n r).bind fun r₁ _ h₁ => .pure (.of_advance h₁ hfree hopen hword)
  exact (Reads.node hfree hkeyword).mono fun _ _ h => h.mono fun _ hx => congrArg Prod.snd hx

/-- Modifiers are a node of which nothing is asked, and so is what stands inside. -/
theorem reads_modifiers (inBlock : Bool) (r : Reader) :
    Reads r (modifiers inBlock) fun r' n => Part Plain r r' [n] ∧ Part Plain r r' n.children := by
  have hitem : Yields Plain (do
      if ← atAnnotation then reach .annotationUse else one (modifierKeyword inBlock)) := by
    refine fun r => .look looks_atAnnotation fun _ => ?_
    split
    · exact yields_reach rfl r
    · exact (yieldsOne_modifierKeyword inBlock).one r
  have hinside := hitem.many (looks_atModifier inBlock) r
  refine (Reads.span (K := Part Plain r) (hinside.mono fun _ _ h => ⟨h.fills rfl, h⟩)).mono ?_
  intro r' n hn
  have hkind : n.kind = .modifiers := congrArg Prod.fst hn.2.1
  exact ⟨.of_spans hn.1 (by rw [hkind]; rfl) (congrArg Prod.snd hn.2.1), hn.2.2⟩

/-- Modifiers that may be missing are nodes in no role, and so is what stands inside them. -/
theorem reads_modifiers? (inBlock : Bool) (r : Reader) :
    Reads r (modifiers? inBlock) fun r' marks =>
      Part Plain r r' marks ∧ Part Plain r r' (marks.flatMap Node.children) := by
  refine .look (looks_atModifier inBlock) fun b => ?_
  rw [onlyIf]
  split
  · refine (reads_modifiers inBlock r).bind fun r₁ n hn => .pure ⟨hn.1, ?_⟩
    rw [List.flatMap_singleton]
    exact hn.2
  · exact .pure ⟨.nil (.refl r), .nil (.refl r)⟩

/-- What stands inside modifiers matters to the rule for a receiver only. -/
theorem yields_modifiers? (inBlock : Bool) : Yields Plain (modifiers? inBlock) :=
  fun r => (reads_modifiers? inBlock r).mono fun _ _ h => h.1

end BeanMapper.Java.Grammar
