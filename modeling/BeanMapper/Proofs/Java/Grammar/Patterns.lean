import BeanMapper.Java.Grammar.Patterns
import BeanMapper.Proofs.Java.Grammar.Types

/-! # Patterns — what the rules for patterns give

    Patterns are nodes of which nothing is asked; record patterns by induction
    on how deep they may be (`yieldsOne_recordPatternUpTo`). -/

namespace BeanMapper.Java.Grammar

open BeanMapper.Java.Parser

/-- A type with a name gives two nodes, both in no role. -/
theorem yields_typedName : Yields Plain typedName := by
  intro r
  refine (yieldsOne_unannotatedType r).bind fun r₁ type h₁ => ?_
  refine (yieldsOne_identifier.plain r₁).bind fun r₂ name h₂ => ?_
  exact .pure (h₁.append h₂)

/-- A component is one node, given that record patterns inside are. -/
theorem yieldsOne_patternComponent {nested : Parser Node} (h : YieldsOne Plain nested) :
    YieldsOne Plain (patternComponent nested) := by
  refine fun r => .look (.ahead? 0) fun _ => .look (.ahead? 1) fun _ => ?_
  split
  · exact (yieldsOne_leaf rfl).one.span rfl r
  · refine .look (.canRead _) fun _ => ?_
    split
    · exact yields_typedName.span rfl r
    · exact h r

/-- A record pattern is one node; by induction on how deep it may be. -/
theorem yieldsOne_recordPatternUpTo (depth : Nat) : YieldsOne Plain (recordPatternUpTo depth) := by
  induction depth with
  | zero => exact fun r => .failure
  | succ depth ih =>
      have hbody : YieldsOne Plain (span .recordPatternBody do
          symbol "("
          listUntil ")" (one (patternComponent (recordPatternUpTo depth)))) := by
        refine Yields.span (ρ := Plain) (fun r => ?_) rfl
        refine (skips_symbol "(" r).bind fun r₁ _ h₁ => ?_
        exact ((yieldsOne_patternComponent ih).one.listUntil ")" r₁).mono fun _ _ h => h.skip h₁
      refine Yields.span (ρ := Plain) (fun r => ?_) rfl
      refine (yieldsOne_simpleType r).bind fun r₁ type h₁ => ?_
      refine (hbody r₁).bind fun r₂ body h₂ => ?_
      exact .pure (h₁.append h₂)

/-- A record pattern cannot be deeper than there are tokens, so the bound on its depth goes. -/
theorem yieldsOne_recordPattern : YieldsOne Plain recordPattern :=
  fun r => yieldsOne_recordPatternUpTo r.rest.length r

/-- Asking for a record pattern reads no token. -/
theorem looks_atRecordPattern : Looks atRecordPattern := .canRead _

/-- Asking for a type with a name reads no token. -/
theorem looks_atTypePattern : Looks atTypePattern := .canRead _

end BeanMapper.Java.Grammar
