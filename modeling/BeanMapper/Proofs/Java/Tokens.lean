import BeanMapper.Proofs.Java.Shape
import BeanMapper.Java.Token

/-! # Tokens — the nodes that a text is cut into beside its tokens

    The parts of strings and the comments are made before any rule of the
    grammar is asked.  Neither stands for a token (`quiet_of_lex?`). -/

namespace BeanMapper.Java.Lexer

/-- Nothing in a list of tokens and comments stands for a token but the tokens. -/
structure Quiet (l : Lexed) : Prop where
  /-- The parts of strings do not. -/
  parts : ∀ t ∈ l.tokens, ∀ n ∈ t.parts, Inert n
  /-- The comments do not. -/
  comments : ∀ n ∈ l.comments, Inert n

theorem inert_part {kind : Kind} (hkind : kind.isInert = true) (start : Nat) (cs : List Char) :
    Inert (part kind start cs) :=
  .mk hkind fun _ hc => absurd hc List.not_mem_nil

/-- Closing a fragment keeps the pieces of a string inert. -/
theorem inert_closeFragment {start : Nat} {fragment : List Char} {parts : List Node}
    (h : ∀ n ∈ parts, Inert n) : ∀ n ∈ closeFragment start fragment parts, Inert n := by
  rw [closeFragment]
  split
  · exact h
  · exact List.forall_mem_cons.mpr ⟨inert_part rfl start fragment, h⟩

/-- The parts of a string stand for no tokens; by induction on how many characters are left. -/
theorem inert_of_readString {isBlock : Bool} (fuel : Nat) :
    ∀ {offset start : Nat} {fragment cs rest : List Char} {parts result : List Node},
      (∀ n ∈ parts, Inert n) →
      readString isBlock fuel offset start fragment parts cs = some (result, rest) →
      ∀ n ∈ result, Inert n := by
  induction fuel with
  | zero => exact fun _ h => nomatch h
  | succ fuel ih =>
      intro offset start fragment cs rest parts result hparts h
      rw [readString.eq_def] at h
      dsimp only at h
      -- at the end of the text, at an escape, at a quote, and at any other character
      split at h
      · exact nomatch h
      · split at h
        · exact nomatch h
        · refine ih (List.forall_mem_cons.mpr ⟨inert_part rfl offset _, ?_⟩) h
          exact inert_closeFragment hparts
      · split at h
        · obtain ⟨rfl, rfl⟩ := Prod.mk.inj (Option.some.inj h)
          exact inert_closeFragment hparts
        · split at h
          · obtain ⟨rfl, rfl⟩ := Prod.mk.inj (Option.some.inj h)
            exact inert_closeFragment hparts
          · exact ih hparts h
      · exact ih hparts h

/-- What a lexeme adds stands for no token but the token itself. -/
def QuietLexeme : Lexeme → Prop
  | .blank _ => True
  | .comment kind _ => kind.isInert = true
  | .token _ _ parts _ => ∀ n ∈ parts, Inert n

theorem quiet_of_symbolLexeme? {cs : List Char} {l : Lexeme} (h : symbolLexeme? cs = some l) :
    QuietLexeme l := by
  rw [symbolLexeme?] at h
  split at h
  · obtain rfl := Option.some.inj h
    exact fun n hn => absurd hn List.not_mem_nil
  · obtain ⟨s, -, rfl⟩ := Option.map_eq_some_iff.mp h
    exact fun n hn => absurd hn List.not_mem_nil

/-- The pieces of a string stand for no tokens. -/
theorem quiet_of_stringLexeme? {offset : Nat} {cs : List Char} {l : Lexeme}
    (h : stringLexeme? offset cs = some l) : QuietLexeme l := by
  rw [stringLexeme?.eq_def] at h
  obtain ⟨⟨parts, rest⟩, hread, rfl⟩ := Option.map_eq_some_iff.mp h
  have hparts := inert_of_readString _ (fun n hn => absurd hn List.not_mem_nil) hread
  exact fun n hn => hparts n (List.mem_reverse.mp hn)

/-- No lexeme has parts that stand for tokens. -/
theorem quiet_of_lexeme? {offset : Nat} {cs : List Char} {l : Lexeme}
    (h : lexeme? offset cs = some l) : QuietLexeme l := by
  unfold lexeme? at h
  split at h
  · exact nomatch h
  · obtain rfl := Option.some.inj h
    rfl
  · obtain ⟨rest, -, rfl⟩ := Option.map_eq_some_iff.mp h
    rfl
  · exact quiet_of_stringLexeme? h
  · obtain ⟨rest, -, rfl⟩ := Option.map_eq_some_iff.mp h
    exact fun n hn => absurd hn List.not_mem_nil
  · split at h
    · obtain rfl := Option.some.inj h
      trivial
    · split at h
      · obtain rfl := Option.some.inj h
        exact fun n hn => absurd hn List.not_mem_nil
      · split at h
        · obtain rfl := Option.some.inj h
          exact fun n hn => absurd hn List.not_mem_nil
        · exact quiet_of_symbolLexeme? h

/-- Cutting a text into lexemes; by induction on how many there may be. -/
theorem quiet_of_lexFrom (fuel : Nat) : ∀ {offset : Nat} {cs : List Char} {l : Lexed},
    lexFrom fuel offset cs = some l → Quiet l := by
  induction fuel with
  | zero => exact fun h => nomatch h
  | succ fuel ih =>
      intro offset cs l h
      rw [lexFrom] at h
      split at h
      · obtain rfl := Option.some.inj h
        exact ⟨fun t ht => absurd ht List.not_mem_nil, fun n hn => absurd hn List.not_mem_nil⟩
      · -- a blank adds nothing, a comment one node, a token itself
        split at h
        · exact nomatch h
        · exact ih h
        · rename_i hlexeme
          obtain ⟨l, hl, rfl⟩ := Option.map_eq_some_iff.mp h
          refine ⟨(ih hl).parts, List.forall_mem_cons.mpr ⟨?_, (ih hl).comments⟩⟩
          exact .mk (quiet_of_lexeme? hlexeme) fun _ hc => absurd hc List.not_mem_nil
        · rename_i hlexeme
          obtain ⟨l, hl, rfl⟩ := Option.map_eq_some_iff.mp h
          exact ⟨List.forall_mem_cons.mpr ⟨quiet_of_lexeme? hlexeme, (ih hl).parts⟩,
            (ih hl).comments⟩

/-- Nothing that a text is cut into stands for a token but its tokens. -/
theorem quiet_of_lex? {source : List Char} {l : Lexed} (h : lex? source = some l) : Quiet l := by
  rw [lex?.eq_def] at h
  split at h
  · obtain rfl := Option.some.inj h
    exact ⟨fun t ht => absurd ht List.not_mem_nil, fun n hn => absurd hn List.not_mem_nil⟩
  · split at h
    · exact quiet_of_lexFrom _ h
    · exact quiet_of_lexFrom _ h

end BeanMapper.Java.Lexer
