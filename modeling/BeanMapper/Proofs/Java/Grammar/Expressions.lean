import BeanMapper.Java.Grammar.Expressions
import BeanMapper.Proofs.Java.Grammar.Parameters
import BeanMapper.Proofs.Java.Grammar.Patterns

/-! # Expressions — what the rules for expressions give

    Expressions are nodes of which nothing is asked, except that a new object
    may have a body of its own (`builds_creation`).  What stands behind an
    operand makes it grow (`grows_operandSuffix`, `grows_binarySuffix`). -/

namespace BeanMapper.Java.Grammar

open BeanMapper.Java.Parser

/-! ## Looking ahead -/

/-- The operator that stands here is found without reading a token. -/
theorem looks_operator? : Looks operator? := by
  intro goals r a r' h
  have := Option.some.inj (show some (operatorOf r.rest, r) = some (a, r') from h)
  exact (congrArg Prod.snd this).symm

/-- Asking for a lambda expression reads no token. -/
theorem looks_atLambda : Looks atLambda := by
  intro goals r a r' h
  have := Option.some.inj (show some (startsLambda r.rest, r) = some (a, r') from h)
  exact (congrArg Prod.snd this).symm

/-- Asking for a cast reads no token. -/
theorem looks_atCast : Looks atCast := .canRead _

/-- Asking for a type in front of a method reference or of `.class` reads no token. -/
theorem looks_atTypeOperand : Looks atTypeOperand := .canRead _

/-- Asking for the size of a dimension reads no token. -/
theorem looks_atDimensionSize : Looks atDimensionSize := .canRead _

/-! ## Operands -/

/-- Arguments are one node over expressions. -/
theorem yieldsOne_argumentList : YieldsOne Plain argumentList := by
  refine Yields.span (ρ := Plain) (fun r => ?_) rfl
  refine (skips_symbol "(" r).bind fun r₁ _ h₁ => ?_
  exact ((yields_reach rfl).listUntil ")" r₁).mono fun _ _ h => h.skip h₁

/-- An expression in parentheses is one node over it. -/
theorem yieldsOne_parenthesized : YieldsOne Plain parenthesized := by
  refine Yields.span (ρ := Plain) (fun r => ?_) rfl
  refine (skips_symbol "(" r).bind fun r₁ _ h₁ => ?_
  refine (yields_reach rfl r₁).bind fun r₂ inner h₂ => ?_
  refine (skips_symbol ")" r₂).bind fun r₃ _ h₃ => ?_
  exact .pure ((h₂.skip h₁).stop h₃)

/-- The size of a dimension is one node over annotations and an expression. -/
theorem yieldsOne_dimensionSize : YieldsOne Plain dimensionSize := by
  refine Yields.span (ρ := Plain) (fun r => ?_) rfl
  refine (yields_annotations r).bind fun r₁ marks h₁ => ?_
  refine (skips_symbol "[" r₁).bind fun r₂ _ h₂ => ?_
  refine (yields_reach rfl r₂).bind fun r₃ size h₃ => ?_
  refine (skips_symbol "]" r₃).bind fun r₄ _ h₄ => ?_
  exact .pure (h₁.append ((h₃.skip h₂).stop h₄))

/-- A new array has sizes and maybe more dimensions, or dimensions and values. -/
theorem yields_arrayCreationRest : Yields AnyHead arrayCreationRest := by
  refine fun r => .look looks_atDimensionSize fun _ => ?_
  split
  · refine (yieldsOne_dimensionSize.one.many looks_atDimensionSize r).bind fun r₁ sizes h₁ => ?_
    refine (yields_dimensions? r₁).bind fun r₂ dims h₂ => ?_
    exact .pure (h₁.join h₂)
  · refine (yieldsOne_dimensions r).bind fun r₁ dims h₁ => ?_
    refine ((yieldsOne_reachOne rfl).as .value r₁).bind fun r₂ value h₂ => ?_
    exact .pure (h₁.join h₂)

/-- A new object may have a body of its own, and nothing else has one. -/
theorem builds_creation : Builds creation := by
  intro r
  refine (skips_word "new" r).bind fun r₁ _ h₁ => ?_
  refine (yields_annotations r₁).bind fun r₂ marks h₂ => ?_
  refine .look (looks_atSymbol "<") fun b => ?_
  refine (yieldsOne_typeArguments.one.onlyIf b r₂).bind fun r₃ typeArgs h₃ => ?_
  refine (yields_annotations r₃).bind fun r₄ more h₄ => ?_
  refine (yieldsOne_simpleType.as .type r₄).bind fun r₅ type h₅ => ?_
  have hbefore := ((((h₂.skip h₁).append h₃).append h₄).join h₅)
  refine .look (looks_atSymbol "(") fun _ => ?_
  -- arguments make it an object, which may have a body; anything else is an array
  split
  · refine (yieldsOne_argumentList.as .arguments r₅).bind fun r₆ arguments h₆ => ?_
    refine .look (looks_atSymbol _) fun b => ?_
    rw [onlyIf]
    split
    · refine (reads_reach .classBody r₆).bind fun r₇ ns h₇ => ?_
      obtain ⟨body, rfl, hbody⟩ := h₇
      exact .pure (.creation (hbefore.join h₆) hbody)
    · rw [pure_bind]
      exact .pure (.of_part rfl ((hbefore.join h₆).append (.nil (.refl r₆))))
  · refine (yields_arrayCreationRest r₅).bind fun r₆ rest h₆ => ?_
    exact .pure (.of_part rfl (hbefore.join h₆))

/-- A member with arguments makes up a call, and any other an access to a field. -/
theorem builds_memberRest : Builds memberRest := by
  refine fun r => .look (looks_atSymbol "<") fun b => ?_
  refine (yieldsOne_typeArguments.one.onlyIf b r).bind fun r₁ typeArgs h₁ => ?_
  refine (yieldsOne_identifier.as .name r₁).bind fun r₂ name h₂ => ?_
  refine .look (looks_atSymbol "(") fun _ => ?_
  split
  · refine (yieldsOne_argumentList.as .arguments r₂).bind fun r₃ arguments h₃ => ?_
    exact .pure (.of_part rfl ((h₁.join h₂).join h₃))
  · exact .look (.test _) fun _ => .pure (.of_part rfl (h₂.skip h₁.advance))

/-- A string is a node over its token, and its parts stand for no tokens. -/
theorem part_string {r r' : Reader} {t : Token} (hrest : r.rest = t :: r'.rest)
    (hlast : r'.last = t.stop) (hparts : ∀ n ∈ t.parts, Inert n) :
    Part Plain r r' [.mk .stringLiteral .none t.start t.stop t.parts] :=
  .of_spans (.string hrest hlast hparts) rfl rfl

/-- An operand grows by what is selected from it. -/
theorem grows_selection : Grows selection := by
  intro r₀ r n hn
  refine .look (.ahead? 1) fun what => ?_
  refine (skips_symbol "." r).bind fun r₁ _ h₁ => ?_
  have hn₁ := hn.stop h₁
  -- the word behind the dot decides: `new`, `class`, `this`, `super`, a string or a member
  split
  · exact .afterOf hn₁ (builds_creation r₁)
  · split
    · exact .after (ρ := Plain) hn₁ rfl
        ((skips_word "class" r₁).bind fun r₂ _ h₂ => .pure (.nil h₂))
    · split
      · exact .after hn₁ rfl ((yieldsOne_leaf rfl).one r₁)
      · split
        · refine .afterOf hn₁ ((yieldsOne_leaf rfl r₁).bind fun r₂ parent h₂ => ?_)
          refine (skips_trySymbol "." r₂).bind fun r₃ _ h₃ => ?_
          split
          · refine (builds_memberRest r₃).bind fun r₄ ⟨kind, rest⟩ h₄ => ?_
            exact .pure (h₄.prepend (h₂.stop h₃))
          · refine .look (looks_atSymbol "::") fun _ => .look (.test _) fun _ => ?_
            exact .pure (.of_part rfl (h₂.stop h₃))
        · split
          · refine .after (ρ := Plain) hn₁ rfl ?_
            refine (reads_token r₁).bind fun r₂ t ⟨⟨hrest, hlast⟩, hparts⟩ => ?_
            exact .pure (part_string hrest hlast hparts)
          · exact .afterOf hn₁ (builds_memberRest r₁)

/-- An operand grows by a reference to one of its methods or to a constructor. -/
theorem grows_methodReference : Grows methodReference := by
  refine fun r₀ r n hn => .after (ρ := Plain) hn rfl ?_
  refine (skips_symbol "::" r).bind fun r₁ _ h₁ => ?_
  refine .look (looks_atSymbol "<") fun b => ?_
  refine (yieldsOne_typeArguments.one.onlyIf b r₁).bind fun r₂ typeArgs h₂ => ?_
  refine (skips_tryWord "new" r₂).bind fun r₃ _ h₃ => ?_
  have h := (h₂.skip h₁).stop h₃
  split
  · exact .pure h
  · refine (yieldsOne_identifier.plain r₃).bind fun r₄ name h₄ => ?_
    exact .pure (h.append h₄)

/-- An operand grows by what stands behind it. -/
theorem grows_operandSuffix : Grows operandSuffix := by
  refine fun r₀ r n hn => .look (looks_atSymbol ".") fun _ => ?_
  split
  · exact grows_selection r₀ r n hn
  · refine .look (looks_atSymbol "::") fun _ => ?_
    split
    · exact grows_methodReference r₀ r n hn
    · refine .after (ρ := Plain) hn rfl ?_
      refine (skips_symbol "[" r).bind fun r₁ _ h₁ => ?_
      refine (yields_reach rfl r₁).bind fun r₂ index h₂ => ?_
      refine (skips_symbol "]" r₂).bind fun r₃ _ h₃ => ?_
      exact .pure ((h₂.skip h₁).stop h₃)

/-- Nothing is asked of the words that are operands of their own. -/
theorem isOrdinary_of_wordOperands {w : String} {kind : Kind}
    (h : wordOperands.lookup w = some kind) : kind.isOrdinary = true := by
  have hall : ∀ entry ∈ wordOperands, entry.2.isOrdinary = true := by decide
  obtain ⟨l₁, l₂, hl, -⟩ := List.lookup_eq_some_iff.mp h
  exact hall (w, kind) (by rw [hl]; simp)

/-- A node in front of a dot or two colons. -/
theorem yieldsOne_beforeSelection {q : Parser Node} (h : YieldsOne Plain q) :
    YieldsOne Plain (do
      let n ← q
      guard ((← atSymbol ".") || (← atSymbol "::"))
      return n) := by
  intro r
  refine (h r).bind fun r₁ n h₁ => ?_
  refine .look (looks_atSymbol ".") fun _ => .look (looks_atSymbol "::") fun _ => ?_
  exact .look (.test _) fun _ => .pure h₁

/-- An operand that starts with a word is one node, whatever the word announces. -/
theorem yieldsOne_wordOperand (t : Token) : YieldsOne Plain (wordOperand t) := by
  intro r
  rw [wordOperand]
  split
  · exact yieldsOne_leaf (isOrdinary_of_wordOperands ‹_›) r
  · -- other words start an object, a switch, a type or a call, or are names
    split
    · exact builds_creation.spanOf r
    · split
      · exact yieldsOne_reachOne rfl r
      · split
        · exact yieldsOne_beforeSelection (yieldsOne_leaf rfl) r
        · split
          · exact yieldsOne_beforeSelection yieldsOne_unannotatedType r
          · refine .look looks_atTypeOperand fun _ => ?_
            split
            · exact yieldsOne_unannotatedType r
            · refine .look (.ahead? 1) fun _ => ?_
              split
              · refine Yields.span (ρ := AnyHead) (fun r => ?_) rfl r
                refine (yieldsOne_identifier.as .name r).bind fun r₁ name h₁ => ?_
                refine (yieldsOne_argumentList.as .arguments r₁).bind fun r₂ arguments h₂ => ?_
                exact .pure (h₁.join h₂)
              · exact yieldsOne_identifier.plain r

/-- An operand with nothing behind it is one node; a string keeps the parts of its token. -/
theorem yieldsOne_primary : YieldsOne Plain primary := by
  refine fun r => .look looks_next? fun t => ?_
  split
  · exact .failure
  · split
    · exact yieldsOne_leaf rfl r
    · exact yieldsOne_leaf rfl r
    · refine (reads_token r).bind fun r₁ t ⟨⟨hrest, hlast⟩, hparts⟩ => ?_
      exact .pure (part_string hrest hlast hparts)
    · exact yieldsOne_wordOperand _ r
    · exact yieldsOne_parenthesized r

/-- An operand is one node with everything that stands behind it. -/
theorem yieldsOne_operand : YieldsOne Plain operand := yieldsOne_primary.grow grows_operandSuffix

/-! ## Operators -/

/-- A cast is one node over its types and what is cast. -/
theorem yieldsOne_cast : YieldsOne Plain cast := by
  refine Yields.span (ρ := AnyHead) (fun r => ?_) rfl
  refine (skips_symbol "(" r).bind fun r₁ _ h₁ => ?_
  refine ((yieldsOne_type.as .type).separatedBy "&" r₁).bind fun r₂ types h₂ => ?_
  refine (skips_symbol ")" r₂).bind fun r₃ _ h₃ => ?_
  refine .look looks_atLambda fun isLambda => ?_
  refine (yields_reach (isPlainGoal_ite rfl rfl) r₃).bind fun r₄ value h₄ => ?_
  exact .pure (((h₂.skip h₁).stop h₃).join h₄)

/-- An operand is one node, also where it is counted up or down or assigned to. -/
theorem yieldsOne_changedOperand : YieldsOne Plain changedOperand := by
  intro r
  refine (yieldsOne_operand r).bind fun r₁ value h₁ => ?_
  refine .look (looks_atSymbol "++") fun _ => .look (looks_atSymbol "--") fun _ => ?_
  split
  · refine .after (ρ := Plain) h₁ rfl ?_
    exact (skips_skip 1 r₁).bind fun r₂ _ h₂ => .pure (.nil h₂)
  · refine .look looks_operator? fun _ => ?_
    split
    · refine .look (.test _) fun _ => .after (ρ := Plain) h₁ rfl ?_
      refine (skips_skip _ r₁).bind fun r₂ _ h₂ => ?_
      exact (yields_reach rfl r₂).mono fun _ _ h => h.skip h₂
    · exact .pure h₁

/-- An operator in front of an operand. -/
theorem yieldsOne_prefixed {kind : Kind} (hkind : kind.isOrdinary = true) :
    YieldsOne Plain (span kind do
      skip 1
      reach .unary) := by
  refine Yields.span (ρ := Plain) (fun r => ?_) hkind
  refine (skips_skip 1 r).bind fun r₁ _ h₁ => ?_
  exact (yields_reach rfl r₁).mono fun _ _ h => h.skip h₁

/-- An operand is one node with the operators and casts in front of it. -/
theorem yieldsOne_unary : YieldsOne Plain unary := by
  refine fun r => .look looks_next? fun t => ?_
  split
  · exact .failure
  · split
    · exact yieldsOne_prefixed rfl r
    · split
      · exact yieldsOne_prefixed rfl r
      · refine .look looks_atCast fun _ => ?_
        split
        · exact yieldsOne_cast r
        · exact yieldsOne_changedOperand r

/-- Behind `instanceof` stands a record pattern, or a type that may have a name. -/
theorem yields_tested : Yields AnyHead tested := by
  intro r
  refine (skips_tryWord "final" r).bind fun r₁ _ h₁ => ?_
  refine .look looks_atRecordPattern fun _ => ?_
  split
  · exact (yieldsOne_recordPattern.one r₁).mono fun _ _ h => h.any.skip h₁
  · refine (yields_reach rfl r₁).bind fun r₂ type h₂ => ?_
    refine .look looks_atName fun b => ?_
    refine ((yieldsOne_identifier.as .name).onlyIf b r₂).bind fun r₃ name h₃ => ?_
    exact .pure ((h₂.skip h₁).join h₃)

/-- An expression grows by an operator and its right side. -/
theorem grows_binarySuffix (level : Nat) : Grows (binarySuffix level) := by
  refine fun r₀ r n hn => .look looks_operator? fun _ => ?_
  split
  · refine .look (.test _) fun _ => .after (ρ := Plain) hn rfl ?_
    refine (skips_skip _ r).bind fun r₁ _ h₁ => ?_
    exact (yields_reach rfl r₁).mono fun _ _ h => h.skip h₁
  · refine .look (.test _) fun _ => .after (ρ := AnyHead) hn rfl ?_
    refine (skips_skip 1 r).bind fun r₁ _ h₁ => ?_
    exact (yields_tested r₁).mono fun _ _ h => h.skip h₁
  · exact .failure

/-- The operators of one level make one node, which grows to the right. -/
theorem yieldsOne_operands (level : Nat) : YieldsOne Plain (operands level) :=
  (yieldsOne_reachOne rfl).grow (grows_binarySuffix level)

/-- An expression is one node, also where it chooses between two others. -/
theorem yieldsOne_condition : YieldsOne Plain condition := by
  intro r
  refine (yieldsOne_reachOne rfl r).bind fun r₁ test h₁ => ?_
  refine .look (looks_atSymbol "?") fun _ => ?_
  split
  · refine .after (ρ := Plain) h₁ rfl ?_
    refine (skips_symbol "?" r₁).bind fun r₂ _ h₂ => ?_
    refine (yields_reach rfl r₂).bind fun r₃ yes h₃ => ?_
    refine (skips_symbol ":" r₃).bind fun r₄ _ h₄ => ?_
    refine .look looks_atLambda fun isLambda => ?_
    refine (yields_reach (isPlainGoal_ite rfl rfl) r₄).bind fun r₅ no h₅ => ?_
    exact .pure (((h₃.skip h₂).stop h₄).append h₅)
  · exact .pure h₁

/-! ## Lambda expressions -/

/-- The parameters of a lambda expression are one node, with types or without. -/
theorem yieldsOne_lambdaParameters : YieldsOne Plain lambdaParameters := by
  refine fun r => .look looks_atName fun _ => ?_
  split
  · exact yieldsOne_identifier.plain r
  · refine .look (.ahead? 1) fun _ => .look (.ahead? 2) fun _ => .look (.ahead? 2) fun _ => ?_
    split
    · refine Yields.span (ρ := Plain) (fun r => ?_) rfl r
      refine (skips_symbol "(" r).bind fun r₁ _ h₁ => ?_
      exact (yieldsOne_identifier.plain.one.listUntil ")" r₁).mono fun _ _ h => h.skip h₁
    · exact yieldsOne_formalParameters r

/-- A lambda expression is one node over its parameters and its body. -/
theorem yieldsOne_lambda : YieldsOne Plain lambda := by
  refine Yields.span (ρ := AnyHead) (fun r => ?_) rfl
  refine (yieldsOne_lambdaParameters.as .parameters r).bind fun r₁ parameters h₁ => ?_
  refine (skips_symbol "->" r₁).bind fun r₂ _ h₂ => ?_
  refine .look (looks_atSymbol _) fun isBlock => ?_
  have hgoal : isPlainGoal (if isBlock then .block else .expression) = true :=
    isPlainGoal_ite rfl rfl
  refine ((yieldsOne_reachOne hgoal).as .body r₂).bind fun r₃ body h₃ => ?_
  exact .pure ((h₁.stop h₂).join h₃)

/-- An expression is one node, be it a lambda expression or not. -/
theorem yieldsOne_expression : YieldsOne Plain expression := by
  refine fun r => .look looks_atLambda fun _ => ?_
  split
  · exact yieldsOne_lambda r
  · exact yieldsOne_reachOne rfl r

/-- Values in braces are one node, also where braces stand inside. -/
theorem yieldsOne_arrayInitializer : YieldsOne Plain arrayInitializer := by
  have hitem : Yields Plain (do
      if ← atSymbol "\x7b" then reach .arrayInitializer else reach .expression) := by
    refine fun r => .look (looks_atSymbol _) fun _ => ?_
    split
    · exact yields_reach rfl r
    · exact yields_reach rfl r
  refine Yields.span (ρ := Plain) (fun r => ?_) rfl
  refine (skips_symbol _ r).bind fun r₁ _ h₁ => ?_
  exact (hitem.looseListUntil _ r₁).mono fun _ _ h => h.skip h₁

end BeanMapper.Java.Grammar
