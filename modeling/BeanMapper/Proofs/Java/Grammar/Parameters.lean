import BeanMapper.Java.Grammar.Parameters
import BeanMapper.Proofs.Java.Grammar.Annotations
import BeanMapper.Proofs.Java.Members

/-! # Parameters — what the rules for parameters give

    An ordinary parameter bears its name (`yieldsOne_parameter`); a receiver
    takes the modifiers in front of it apart. -/

namespace BeanMapper.Java.Grammar

open BeanMapper.Java.Parser

/-- The name of a variable with its dimensions holds a single word as the name. -/
theorem reads_variableName (r : Reader) :
    Reads r variableName fun r' ns => Part Header r r' ns ∧ Has .name ns := by
  refine (yieldsOne_declaredName.asName r).bind fun r₁ name ⟨h₁, hname⟩ => ?_
  refine (yields_dimensions? r₁).bind fun r₂ dims h₂ => ?_
  exact .pure ⟨h₁.append h₂.aside, hname.left dims⟩

/-- The name of a variable and its dimensions may stand anywhere. -/
theorem yields_variableName : Yields AnyHead variableName :=
  fun r => (reads_variableName r).mono fun _ _ h => h.1.any

/-- Asking for a receiver reads no token. -/
theorem looks_atReceiver (isMarked : Bool) : Looks (atReceiver isMarked) :=
  .bind (looks_atWord "this") fun _ => .bind (.ahead? 0) fun _ => .bind (.ahead? 1) fun _ => .pure _

/-- The names of outer types and the receiver are nodes in no role. -/
theorem yields_receiverName : Yields Plain receiverName := by
  have hdotted : Yields Plain (do
      let name ← identifier
      symbol "."
      return [name]) := by
    intro r
    refine (yieldsOne_identifier.plain r).bind fun r₁ name h₁ => ?_
    refine (skips_symbol "." r₁).bind fun r₂ _ h₂ => ?_
    exact .pure (h₁.stop h₂)
  intro r
  refine (hdotted.many looks_atName r).bind fun r₁ outer h₁ => ?_
  refine .look (looks_atWord "this") fun _ => .look (.test _) fun _ => ?_
  refine (yieldsOne_leaf rfl r₁).bind fun r₂ this h₂ => ?_
  exact .pure (h₁.append h₂)

/-- A parameter is one node; one that is no receiver bears its name, directly or in the variable
    inside. -/
theorem yieldsOne_parameter : YieldsOne Plain parameter := by
  refine Builds.spanOf fun r => ?_
  refine (reads_modifiers? false r).bind fun r₁ marks ⟨h₁, hinside⟩ => ?_
  refine (reads_unannotatedType r₁).bind fun r₂ type ⟨h₂, hbare⟩ => ?_
  refine .look (looks_atReceiver _) fun _ => ?_
  split
  · -- a receiver has the modifiers themselves as parts, not the node over them
    refine (yields_receiverName r₂).bind fun r₃ name h₃ => ?_
    exact .pure (.of_part rfl (hinside.append (h₂.append h₃)))
  · refine .look (.canRead _) fun _ => ?_
    split
    · -- a variable number of arguments is declared as a variable of its own
      refine (yields_annotations r₂).bind fun r₃ more h₃ => ?_
      refine (skips_symbol "..." r₃).bind fun r₄ _ h₄ => ?_
      refine (yields_annotations r₄).bind fun r₅ others h₅ => ?_
      have hdeclarator := (reads_variableName r₅).mono (Q := Fills .variableDeclarator r₅)
        fun _ _ h => .member rfl h.1.of_header h.2 (fun hm => nomatch hm)
      refine (Reads.node rfl hdeclarator).bind fun r₆ declarator h₆ => ?_
      have hbehind := ((h₃.stop h₄).append h₅).join h₆
      exact .pure (.of_part rfl (by simpa using h₁.join (h₂.join hbehind)))
    · refine (reads_variableName r₂).bind fun r₃ name ⟨h₃, hname⟩ => ?_
      have hpart := ((h₂.type hbare).append h₃).of_header
      have hmember : Completes r₁ r₃ (.formalParameter, type.inRole .type :: name) :=
        .member rfl hpart (hname.right [type.inRole .type]) fun hm => nomatch hm
      exact .pure (hmember.prepend h₁)

/-- Parameters in parentheses are one node over the parameters. -/
theorem yieldsOne_formalParameters : YieldsOne Plain formalParameters := by
  refine Yields.span (ρ := Plain) (fun r => ?_) rfl
  refine (skips_symbol "(" r).bind fun r₁ _ h₁ => ?_
  exact (yieldsOne_parameter.one.listUntil ")" r₁).mono fun _ _ h => h.skip h₁

end BeanMapper.Java.Grammar
