import BeanMapper.Java.Grammar.Statements
import BeanMapper.Proofs.Java.Grammar.Expressions

/-! # Statements — what the rules for statements give

    A declared variable bears its name (`yieldsOne_variableDeclarator`).  All
    other parts of statements are nodes of which nothing is asked; what stands
    behind the first word of a statement makes one up (`builds_afterWord?`). -/

namespace BeanMapper.Java.Grammar

open BeanMapper.Java.Parser

/-- A statement is a goal, and gives nodes in no role. -/
theorem yields_statement : Yields Plain statement := yields_reach rfl

/-- Whether a symbol does not stand here. -/
theorem looks_notAtSymbol (s : String) : Looks (do return !(← atSymbol s)) :=
  .bind (looks_atSymbol s) fun _ => .pure _

/-- A block is one node over its statements. -/
theorem yieldsOne_block : YieldsOne Plain block := by
  refine Yields.span (ρ := Plain) (fun r => ?_) rfl
  refine (skips_symbol _ r).bind fun r₁ _ h₁ => ?_
  refine (yields_statement.many (looks_notAtSymbol _) r₁).bind fun r₂ inner h₂ => ?_
  refine (skips_symbol _ r₂).bind fun r₃ _ h₃ => ?_
  exact .pure ((h₂.skip h₁).stop h₃)

/-! ## Variables -/

/-- A declared variable is one node that bears its name; its initial value does not matter. -/
theorem yieldsOne_variableDeclarator :
    YieldsOne (IsHead .variableDeclarator .none) variableDeclarator := by
  refine fun r => .node rfl ?_
  refine (reads_variableName r).bind fun r₁ name ⟨h₁, hname⟩ => ?_
  refine (skips_trySymbol "=" r₁).bind fun r₂ _ h₂ => ?_
  split
  · refine .look (looks_atSymbol _) fun isList => ?_
    have hgoal : isPlainGoal (if isList then .arrayInitializer else .expression) = true :=
      isPlainGoal_ite rfl rfl
    refine ((yieldsOne_reachOne hgoal).as .value r₂).bind fun r₃ value h₃ => .pure ?_
    have hpart := (h₁.stop h₂).of_header.append (h₃.worded (by decide))
    exact .member rfl hpart (hname.left value) fun hm => nomatch hm
  · exact .pure (.member rfl (h₁.stop h₂).of_header hname fun hm => nomatch hm)

/-- Declared variables stand in the role that the variables of a field are looked up in. -/
theorem yields_variableDeclarators :
    Yields (IsHead .variableDeclarator .declarator) variableDeclarators :=
  (yieldsOne_variableDeclarator.as_head .declarator).separatedBy ","

/-- Local variables have a type and are declared like those of a field. -/
theorem yields_localVariableRest : Yields AnyHead localVariableRest := by
  intro r
  refine (yieldsOne_unannotatedType.as .type r).bind fun r₁ type h₁ => ?_
  refine (yields_variableDeclarators r₁).bind fun r₂ declarators h₂ => ?_
  refine (skips_symbol ";" r₂).bind fun r₃ _ h₃ => ?_
  exact .pure ((h₁.join h₂).stop h₃)

/-- A declaration of local variables is one node. -/
theorem yieldsOne_localVariables : YieldsOne Plain localVariables := by
  refine Yields.span (ρ := AnyHead) (fun r => ?_) rfl
  refine (yields_modifiers? true r).bind fun r₁ marks h₁ => ?_
  refine (yields_localVariableRest r₁).bind fun r₂ rest h₂ => ?_
  exact .pure (h₁.join h₂)

/-- Asking for a declaration of local variables reads no token. -/
theorem looks_atLocalVariables : Looks atLocalVariables := .canRead _

/-! ## Branches and loops -/

/-- Behind `if` stand a condition, a statement, and maybe another one. -/
theorem yields_ifRest : Yields Plain ifRest := by
  intro r
  refine (yieldsOne_parenthesized r).bind fun r₁ test h₁ => ?_
  refine (yields_statement r₁).bind fun r₂ yes h₂ => ?_
  refine (skips_tryWord "else" r₂).bind fun r₃ b h₃ => ?_
  refine (yields_statement.onlyIf b r₃).bind fun r₄ no h₄ => ?_
  exact .pure ((h₁.append h₂).append (h₄.skip h₃))

/-- Expressions up to a symbol are nodes in no role. -/
theorem yields_expressionsUntil (close : String) : Yields Plain (expressionsUntil close) :=
  (yields_reach rfl).listUntil close

/-- What follows `for` makes up a loop of one of two kinds. -/
theorem builds_forRest : Builds forRest := by
  intro r
  refine (skips_symbol "(" r).bind fun r₁ _ h₁ => ?_
  refine .look (.canRead _) fun _ => ?_
  split
  · refine (yields_modifiers? true r₁).bind fun r₂ marks h₂ => ?_
    refine (yieldsOne_unannotatedType.as .type r₂).bind fun r₃ type h₃ => ?_
    refine (yields_variableName r₃).bind fun r₄ name h₄ => ?_
    refine (skips_symbol ":" r₄).bind fun r₅ _ h₅ => ?_
    refine ((yieldsOne_reachOne rfl).as .value r₅).bind fun r₆ value h₆ => ?_
    refine (skips_symbol ")" r₆).bind fun r₇ _ h₇ => ?_
    refine (yields_statement r₇).bind fun r₈ body h₈ => ?_
    have hvariable := (((h₂.skip h₁).join h₃).join h₄).stop h₅
    exact .pure (.of_part rfl (((hvariable.join h₆).stop h₇).join h₈))
  · -- what follows the start is the same for variables and for expressions
    have hrest (r₂ : Reader) (start : List Node) (h₂ : Part Plain r r₂ start) :
        Reads r₂ (do
          let test ← onlyIf (!(← atSymbol ";")) (reach .expression)
          symbol ";"
          let update ← expressionsUntil ")"
          let body ← statement
          return (.forStatement, start ++ test ++ update ++ body)) (Completes r) := by
      refine .look (looks_atSymbol ";") fun b => ?_
      refine ((yields_reach rfl).onlyIf (!b) r₂).bind fun r₃ test h₃ => ?_
      refine (skips_symbol ";" r₃).bind fun r₄ _ h₄ => ?_
      refine (yields_expressionsUntil ")" r₄).bind fun r₅ update h₅ => ?_
      refine (yields_statement r₅).bind fun r₆ body h₆ => ?_
      exact .pure (.of_part rfl ((((h₂.append h₃).stop h₄).append h₅).append h₆))
    refine .look looks_atLocalVariables fun b => ?_
    dsimp only
    split
    · exact (yieldsOne_localVariables.one r₁).bind fun r₂ start h₂ => hrest r₂ start (h₂.skip h₁)
    · exact (yields_expressionsUntil ";" r₁).bind fun r₂ start h₂ => hrest r₂ start (h₂.skip h₁)

/-- Behind `do` stand a statement and a condition. -/
theorem yields_doRest : Yields Plain doRest := by
  intro r
  refine (yields_statement r).bind fun r₁ body h₁ => ?_
  refine (skips_word "while" r₁).bind fun r₂ _ h₂ => ?_
  refine (yieldsOne_parenthesized r₂).bind fun r₃ test h₃ => ?_
  refine (skips_symbol ";" r₃).bind fun r₄ _ h₄ => ?_
  exact .pure ((h₁.stop h₂).append (h₃.stop h₄))

/-! ## Exceptions -/

/-- A clause that catches is one node over what it catches and its block. -/
theorem yieldsOne_catchClause : YieldsOne Plain catchClause := by
  have htypes : YieldsOne Plain (span .catchType (separatedBy "|" (one unannotatedType))) :=
    (yieldsOne_unannotatedType.one.separatedBy "|").span rfl
  have hparameter : YieldsOne Plain (span .catchFormalParameter do
      let marks ← modifiers? true
      let types ← span .catchType (separatedBy "|" (one unannotatedType))
      return marks ++ types :: (← variableName)) := by
    refine Yields.span (ρ := AnyHead) (fun r => ?_) rfl
    refine (yields_modifiers? true r).bind fun r₁ marks h₁ => ?_
    refine (htypes r₁).bind fun r₂ types h₂ => ?_
    refine (yields_variableName r₂).bind fun r₃ name h₃ => ?_
    exact .pure (h₁.join (h₂.join h₃))
  refine Yields.span (ρ := Plain) (fun r => ?_) rfl
  refine (skips_word "catch" r).bind fun r₁ _ h₁ => ?_
  refine (skips_symbol "(" r₁).bind fun r₂ _ h₂ => ?_
  refine (hparameter r₂).bind fun r₃ parameter h₃ => ?_
  refine (skips_symbol ")" r₃).bind fun r₄ _ h₄ => ?_
  refine (yieldsOne_block r₄).bind fun r₅ body h₅ => ?_
  exact .pure (((h₃.skip (h₁.trans h₂)).stop h₄).append h₅)

/-- The clauses behind a block that is tried are nodes in no role. -/
theorem yields_handlers : Yields Plain handlers := by
  have hlast : YieldsOne Plain (span .finallyClause do
      word "finally"
      one block) := by
    refine Yields.span (ρ := Plain) (fun r => ?_) rfl
    refine (skips_word "finally" r).bind fun r₁ _ h₁ => ?_
    exact (yieldsOne_block.one r₁).mono fun _ _ h => h.skip h₁
  intro r
  refine (yieldsOne_catchClause.one.many (looks_atWord "catch") r).bind fun r₁ clauses h₁ => ?_
  refine .look (looks_atWord "finally") fun b => ?_
  refine (hlast.one.onlyIf b r₁).bind fun r₂ last h₂ => ?_
  exact .pure (h₁.append h₂)

/-- A resource is one node, declared here or named only. -/
theorem yieldsOne_resource : YieldsOne Plain resource := by
  refine Yields.span (ρ := AnyHead) (fun r => ?_) rfl
  refine .look (.canRead _) fun _ => ?_
  split
  · refine (yields_modifiers? true r).bind fun r₁ marks h₁ => ?_
    refine (yieldsOne_unannotatedType.as .type r₁).bind fun r₂ type h₂ => ?_
    refine (yields_variableName r₂).bind fun r₃ name h₃ => ?_
    refine (skips_symbol "=" r₃).bind fun r₄ _ h₄ => ?_
    refine ((yieldsOne_reachOne rfl).as .value r₄).bind fun r₅ value h₅ => ?_
    exact .pure ((((h₁.join h₂).join h₃).stop h₄).join h₅)
  · exact (yields_reach rfl).any r

/-- Resources in parentheses are one node over them. -/
theorem yieldsOne_resources : YieldsOne Plain resources := by
  have hitem : Yields Plain (do
      let item ← resource
      guard ((← trySymbol ";") || (← atSymbol ")"))
      return [item]) := by
    intro r
    refine (yieldsOne_resource r).bind fun r₁ item h₁ => ?_
    refine (skips_trySymbol ";" r₁).bind fun r₂ _ h₂ => ?_
    refine .look (looks_atSymbol ")") fun _ => .look (.test _) fun _ => ?_
    exact .pure (h₁.stop h₂)
  refine Yields.span (ρ := Plain) (fun r => ?_) rfl
  refine (skips_symbol "(" r).bind fun r₁ _ h₁ => ?_
  refine (hitem.many (looks_notAtSymbol ")") r₁).bind fun r₂ items h₂ => ?_
  refine (skips_symbol ")" r₂).bind fun r₃ _ h₃ => ?_
  exact .look (.test _) fun _ => .pure ((h₂.skip h₁).stop h₃)

/-- What follows `try` makes up a statement, of one kind with resources and of another without. -/
theorem builds_tryRest : Builds tryRest := by
  refine fun r => .look (looks_atSymbol "(") fun _ => ?_
  split
  · refine (yieldsOne_resources r).bind fun r₁ specification h₁ => ?_
    refine (yieldsOne_block.as .body r₁).bind fun r₂ body h₂ => ?_
    refine (yields_handlers r₂).bind fun r₃ clauses h₃ => ?_
    exact .pure (.of_part rfl ((h₁.join h₂).join h₃))
  · refine (yieldsOne_block.as .body r).bind fun r₁ body h₁ => ?_
    refine (yields_handlers r₁).bind fun r₂ clauses h₂ => ?_
    exact .look (.test _) fun _ => .pure (.of_part rfl (h₁.join h₂))

/-! ## Switches -/

/-- Asking for a label reads no token. -/
theorem looks_atLabel : Looks atLabel :=
  .bind (looks_atWord "case") fun _ => .bind (looks_atWord "default") fun _ => .pure _

/-- A label compares with nodes in no role: a pattern, an expression, or nothing. -/
theorem yields_labelItem : Yields Plain labelItem := by
  intro r
  refine (skips_tryWord "default" r).bind fun r₁ _ h₁ => ?_
  split
  · exact .pure (.nil h₁)
  · refine .look looks_atRecordPattern fun _ => ?_
    split
    · exact (yieldsOne_recordPattern.one r₁).mono fun _ _ h => h.skip h₁
    · refine .look looks_atTypePattern fun _ => ?_
      split
      · exact ((yields_typedName.span rfl).one r₁).mono fun _ _ h => h.skip h₁
      · exact (yields_reach rfl r₁).mono fun _ _ h => h.skip h₁

/-- A condition of a label is one node. -/
theorem yieldsOne_labelGuard : YieldsOne Plain labelGuard := by
  refine Yields.span (ρ := Plain) (fun r => ?_) rfl
  refine (skips_word "when" r).bind fun r₁ _ h₁ => ?_
  exact (yields_reach rfl r₁).mono fun _ _ h => h.skip h₁

/-- A label is one node over what it compares with and its condition. -/
theorem yieldsOne_switchLabel : YieldsOne Plain switchLabel := by
  refine Yields.span (ρ := Plain) (fun r => ?_) rfl
  refine (skips_tryWord "default" r).bind fun r₁ _ h₁ => ?_
  split
  · exact .pure (.nil h₁)
  · refine (skips_word "case" r₁).bind fun r₂ _ h₂ => ?_
    refine (yields_labelItem.separatedBy "," r₂).bind fun r₃ items h₃ => ?_
    refine .look (looks_atWord "when") fun b => ?_
    refine (yieldsOne_labelGuard.one.onlyIf b r₃).bind fun r₄ guards h₄ => ?_
    exact .pure ((h₃.skip (h₁.trans h₂)).append h₄)

/-- An expression and a semicolon. -/
theorem yields_expressionAndEnd : Yields Plain expressionAndEnd := by
  intro r
  refine (yields_reach rfl r).bind fun r₁ value h₁ => ?_
  refine (skips_symbol ";" r₁).bind fun r₂ _ h₂ => ?_
  exact .pure (h₁.stop h₂)

/-- What a rule does gives nodes in no role. -/
theorem yields_ruleBody : Yields Plain ruleBody := by
  refine fun r => .look (looks_atSymbol _) fun _ => .look (looks_atWord "throw") fun _ => ?_
  split
  · exact yields_statement r
  · exact (yields_expressionAndEnd.span rfl).one r

/-- A rule is one node, and so is a group of statements with its labels. -/
theorem yieldsOne_switchItem : YieldsOne Plain switchItem := by
  have hlabel : Yields Plain (do
      let next ← switchLabel
      symbol ":"
      return [next]) := by
    intro r
    refine (yieldsOne_switchLabel r).bind fun r₁ next h₁ => ?_
    refine (skips_symbol ":" r₁).bind fun r₂ _ h₂ => ?_
    exact .pure (h₁.stop h₂)
  refine Builds.spanOf fun r => ?_
  refine (yieldsOne_switchLabel r).bind fun r₁ label h₁ => ?_
  refine (skips_trySymbol "->" r₁).bind fun r₂ _ h₂ => ?_
  split
  · refine (yields_ruleBody r₂).bind fun r₃ body h₃ => ?_
    exact .pure (.of_part rfl ((h₁.stop h₂).append h₃))
  · -- with colons there may be more labels in front of the statements
    refine (skips_symbol ":" r₂).bind fun r₃ _ h₃ => ?_
    refine (hlabel.many looks_atLabel r₃).bind fun r₄ labels h₄ => ?_
    have hinner := yields_statement.many (c := do return !((← atLabel) || (← atSymbol "\x7d")))
      (.bind looks_atLabel fun _ => .bind (looks_atSymbol _) fun _ => .pure _)
    refine (hinner r₄).bind fun r₅ inner h₅ => ?_
    exact .pure (.of_part rfl (((h₁.stop (h₂.trans h₃)).append h₄).append h₅))

/-- A switch is one node over its value and its body. -/
theorem yieldsOne_switchExpression : YieldsOne Plain switchExpression := by
  have hbody : YieldsOne Plain (span .switchBlock do
      symbol "\x7b"
      let items ← many atLabel (one switchItem)
      symbol "\x7d"
      return items) := by
    refine Yields.span (ρ := Plain) (fun r => ?_) rfl
    refine (skips_symbol _ r).bind fun r₁ _ h₁ => ?_
    refine (yieldsOne_switchItem.one.many looks_atLabel r₁).bind fun r₂ items h₂ => ?_
    refine (skips_symbol _ r₂).bind fun r₃ _ h₃ => ?_
    exact .pure ((h₂.skip h₁).stop h₃)
  refine Yields.span (ρ := AnyHead) (fun r => ?_) rfl
  refine (skips_word "switch" r).bind fun r₁ _ h₁ => ?_
  refine (yieldsOne_parenthesized r₁).bind fun r₂ test h₂ => ?_
  refine (hbody r₂).bind fun r₃ body h₃ => ?_
  exact .pure ((h₂.skip h₁).join (h₃.inRole .body))

/-! ## Statements by their first word -/

/-- Behind `break` and `continue` stands a name at most. -/
theorem yields_targetAndEnd : Yields Plain targetAndEnd := by
  refine fun r => .look looks_atName fun b => ?_
  refine (yieldsOne_identifier.plain.one.onlyIf b r).bind fun r₁ target h₁ => ?_
  refine (skips_symbol ";" r₁).bind fun r₂ _ h₂ => ?_
  exact .pure (h₁.stop h₂)

/-- Behind `assert` stand a condition and maybe a message. -/
theorem yields_assertRest : Yields Plain assertRest := by
  intro r
  refine (yields_reach rfl r).bind fun r₁ test h₁ => ?_
  refine (skips_trySymbol ":" r₁).bind fun r₂ b h₂ => ?_
  refine ((yields_reach rfl).onlyIf b r₂).bind fun r₃ detail h₃ => ?_
  refine (skips_symbol ";" r₃).bind fun r₄ _ h₄ => ?_
  exact .pure (((h₁.stop h₂).append h₃).stop h₄)

/-- Behind `return` stands an expression at most. -/
theorem yields_returnRest : Yields Plain returnRest := by
  refine fun r => .look (looks_atSymbol ";") fun b => ?_
  refine ((yields_reach rfl).onlyIf (!b) r).bind fun r₁ value h₁ => ?_
  refine (skips_symbol ";" r₁).bind fun r₂ _ h₂ => ?_
  exact .pure (h₁.stop h₂)

/-- What follows a word that starts a statement makes up the statement. -/
theorem builds_afterWord? {w : String} {p : Parser (Kind × List Node)}
    (h : afterWord? w = some p) : Builds p := by
  unfold afterWord? at h
  split at h
  -- the last alternative is that of a word that starts no statement
  case h_12 => exact nomatch h
  all_goals obtain rfl := Option.some.inj h
  · exact yields_ifRest.builds rfl
  · intro r
    refine (yieldsOne_parenthesized r).bind fun r₁ test h₁ => ?_
    refine (yields_statement r₁).bind fun r₂ body h₂ => ?_
    exact .pure (.of_part rfl (h₁.append h₂))
  · exact builds_forRest
  · exact yields_doRest.builds rfl
  · exact builds_tryRest
  · exact yields_returnRest.builds rfl
  · exact yields_expressionAndEnd.builds rfl
  · exact yields_targetAndEnd.builds rfl
  · exact yields_targetAndEnd.builds rfl
  · exact yields_assertRest.builds rfl
  · intro r
    refine (yieldsOne_parenthesized r).bind fun r₁ lock h₁ => ?_
    refine (yieldsOne_block.as .body r₁).bind fun r₂ body h₂ => ?_
    exact .pure (.of_part rfl (h₁.join h₂))

/-- Asking whether `yield` starts a statement reads no token. -/
theorem looks_atYield : Looks atYield :=
  .bind (.ahead? 1) fun _ => .bind (looks_atWord "yield") fun _ => .pure _

/-- A statement that is no declaration gives nodes in no role. -/
theorem yields_plainStatement : Yields Plain plainStatement := by
  refine fun r => .look looks_next? fun t => ?_
  split
  · exact .failure
  · split
    · exact yieldsOne_switchExpression.one r
    · refine .look looks_atYield fun _ => ?_
      split
      · refine (Yields.span (ρ := Plain) (fun r => ?_) rfl).one r
        refine (skips_skip 1 r).bind fun r₁ _ h₁ => ?_
        exact (yields_expressionAndEnd r₁).mono fun _ _ h => h.skip h₁
      · refine .look (.ahead? 1) fun _ => ?_
        split
        · refine (Yields.span (ρ := Plain) (fun r => ?_) rfl).one r
          refine (yieldsOne_identifier.plain r).bind fun r₁ label h₁ => ?_
          refine (skips_symbol ":" r₁).bind fun r₂ _ h₂ => ?_
          refine (yields_statement r₂).bind fun r₃ body h₃ => ?_
          exact .pure ((h₁.stop h₂).append h₃)
        · split
          · -- the first word is passed over before the rest is read
            rename_i rest hrest
            have hbuilds : Builds rest := by
              split at hrest
              · exact builds_afterWord? hrest
              · exact nomatch hrest
            refine (Builds.spanOf fun r => ?_).one r
            refine (skips_skip 1 r).bind fun r₁ _ h₁ => ?_
            exact (hbuilds r₁).mono fun r' x hx => hx.prepend (.nil h₁)
          · exact (yields_expressionAndEnd.span rfl).one r

end BeanMapper.Java.Grammar
