import BeanMapper.Java.Grammar
import BeanMapper.Proofs.Java.Grammar.Declarations
import BeanMapper.Proofs.Java.Tokens

/-! # Trees — the tree of every text is shaped

    Every rule gives what its goal asks for (`reads_rule`), so goals inside
    each other do as well (`meets_reachUpTo`, by induction on the bound).
    Comments are put in afterwards; they stand for no tokens and change the
    head of no node (`Shaped.placeComment`).  Hence **every tree is shaped**,
    whatever its text (`shaped_of_parse?`). -/

namespace BeanMapper.Java

namespace Grammar

open BeanMapper.Java.Parser

/-- Every rule gives what its goal asks for. -/
theorem reads_rule (goal : Goal) (r : Reader) : Reads r (rule goal) (Reached goal r) := by
  cases goal with
  | type => exact yieldsOne_type.one r
  | annotationUse => exact yieldsOne_annotation.one r
  | expression => exact yieldsOne_expression.one r
  | condition => exact yieldsOne_condition.one r
  | operands level => exact (yieldsOne_operands level).one r
  | unary => exact yieldsOne_unary.one r
  | elementValue => exact yieldsOne_elementValue.one r
  | arrayInitializer => exact yieldsOne_arrayInitializer.one r
  | block => exact yieldsOne_block.one r
  | statement => exact yields_anyStatement false r
  | topLevelStatement => exact yields_anyStatement true r
  | switchExpression => exact yieldsOne_switchExpression.one r
  | classBody => exact (reads_classBody r).bind fun r' n hn => .pure ⟨n, rfl, hn⟩

/-- Goals inside each other give what they should; by induction on how many there may be. -/
theorem meets_reachUpTo (fuel : Nat) : Meets (reachUpTo fuel) := by
  induction fuel with
  | zero => exact fun goal r ns r' _ h => nomatch h
  | succ fuel ih =>
      intro goal r ns r' hclean h
      exact (reads_rule goal r (reachUpTo fuel) ih hclean ns r' h).2

theorem yields_statements : Yields Plain statements :=
  (yields_reach rfl).many (.bind looks_next? fun _ => .pure _)

/-- The nodes of a file were read from all its tokens. -/
theorem part_of_readAll? {l : Lexer.Lexed} (hl : Lexer.Quiet l) {ns : List Node}
    (h : readAll? l.tokens = some ns) : ∃ last, Part Plain ⟨l.tokens, 0⟩ ⟨[], last⟩ ns := by
  rw [readAll?.eq_def] at h
  dsimp only at h
  split at h
  · rename_i nodes last hread
    obtain rfl := Option.some.inj h
    have hmeets := meets_reachUpTo (goalsPerToken * (l.tokens.length + 1))
    exact ⟨last, (yields_statements ⟨l.tokens, 0⟩ _ hmeets hl.parts _ _ hread).2⟩
  · exact nomatch h

end Grammar

/-! ## Comments -/

namespace Node

/-- A comment changes neither the kind nor the role of the node around it. -/
theorem head_withComment (c n : Node) : (withComment c n).head = n.head := by
  cases n
  rfl

/-- A comment among some nodes changes none of their heads. -/
theorem heads_placeComment {c : Node} (hc : Inert c) (ns : List Node) :
    heads (placeComment c ns) = heads ns := by
  induction ns with
  | nil => exact heads_eq_nil (List.forall_mem_singleton.mpr hc)
  | cons n ns ih =>
      have hnew (ms : List Node) : heads (c :: ms) = heads ms := by
        show heads ([c] ++ ms) = heads ms
        rw [heads_append, heads_eq_nil (List.forall_mem_singleton.mpr hc), List.nil_append]
      rw [placeComment]
      split
      · have hkind : (withComment c n).kind = n.kind := congrArg Prod.fst (head_withComment c n)
        simp only [heads, List.filter_cons, hkind]
        split
        · rw [List.map_cons, List.map_cons, head_withComment]
        · rfl
      · split
        · exact hnew (n :: ns)
        · show heads ([n] ++ placeComment c ns) = heads ([n] ++ ns)
          rw [heads_append, ih, ← heads_append]

end Node

mutual

/-- A comment may be put into a node that stands for no token. -/
theorem Inert.withComment {c : Node} (hc : Inert c) :
    ∀ {n : Node}, Inert n → Inert (Node.withComment c n)
  | .mk _ _ _ _ _, .mk hkind below => .mk hkind (Inert.placeComment hc below)

/-- A comment may be put among nodes that stand for no tokens. -/
theorem Inert.placeComment {c : Node} (hc : Inert c) :
    ∀ {ns : List Node}, (∀ n ∈ ns, Inert n) → ∀ n ∈ Node.placeComment c ns, Inert n
  | [], _ => List.forall_mem_singleton.mpr hc
  | n :: ns, h => by
      obtain ⟨hn, hns⟩ := List.forall_mem_cons.mp h
      rw [Node.placeComment]
      split
      · exact List.forall_mem_cons.mpr ⟨Inert.withComment hc hn, hns⟩
      · split
        · exact List.forall_mem_cons.mpr ⟨hc, h⟩
        · exact List.forall_mem_cons.mpr ⟨hn, Inert.placeComment hc hns⟩

end

mutual

/-- A node with a comment put into it is shaped as it was. -/
theorem Shaped.withComment {c : Node} (hc : Inert c) :
    ∀ {n : Node}, Shaped n → Shaped (Node.withComment c n)
  | .mk _ _ _ _ _, .inert h => .inert (Inert.withComment hc h)
  | .mk _ _ _ _ children, .mk hkind fits below =>
      .mk hkind (by rw [Node.heads_placeComment hc children]; exact fits)
        (Shaped.placeComment hc below)

/-- Nodes with a comment put among them are shaped as they were. -/
theorem Shaped.placeComment {c : Node} (hc : Inert c) :
    ∀ {ns : List Node}, (∀ n ∈ ns, Shaped n) → ∀ n ∈ Node.placeComment c ns, Shaped n
  | [], _ => List.forall_mem_singleton.mpr (.inert hc)
  | n :: ns, h => by
      obtain ⟨hn, hns⟩ := List.forall_mem_cons.mp h
      rw [Node.placeComment]
      split
      · exact List.forall_mem_cons.mpr ⟨Shaped.withComment hc hn, hns⟩
      · split
        · exact List.forall_mem_cons.mpr ⟨.inert hc, h⟩
        · exact List.forall_mem_cons.mpr ⟨hn, Shaped.placeComment hc hns⟩

end

/-! ## Files -/

/-- The nodes at the top of a file are shaped, and no body of a type is among them. -/
structure TopLevel (ns : List Node) : Prop where
  /-- They are shaped. -/
  shaped : ∀ n ∈ ns, Shaped n
  /-- They may stand anywhere. -/
  free : ∀ x ∈ Node.heads ns, x.1.isFree = true

/-- Comments may be put among the nodes at the top of a file. -/
theorem TopLevel.placeComments {comments : List Node} (hc : ∀ c ∈ comments, Inert c) :
    ∀ {ns : List Node}, TopLevel ns →
      TopLevel (comments.foldl (fun ns c => Node.placeComment c ns) ns) := by
  induction comments with
  | nil => exact fun h => h
  | cons c cs ih =>
      intro ns h
      obtain ⟨hinert, hcs⟩ := List.forall_mem_cons.mp hc
      refine ih hcs ⟨Shaped.placeComment hinert h.shaped, ?_⟩
      rw [Node.heads_placeComment hinert]
      exact h.free

/-- The node over nodes at the top of a file is shaped. -/
theorem TopLevel.program {ns comments : List Node} (h : TopLevel ns) (hc : ∀ c ∈ comments, Inert c)
    (length : Nat) : Shaped (program length ns comments) :=
  have htop := h.placeComments hc
  .mk rfl (.of_free rfl htop.free) htop.shaped

/-- **The tree of every text is shaped.** -/
theorem shaped_of_parse? {text : String} {root : Node} (h : parse? text = some root) :
    Shaped root := by
  obtain ⟨lexed, hlex, h⟩ := Option.bind_eq_some_iff.mp h
  obtain ⟨ns, hread, h⟩ := Option.bind_eq_some_iff.mp h
  obtain rfl := Option.some.inj h
  have hquiet := Lexer.quiet_of_lex? hlex
  obtain ⟨last, hpart⟩ := Grammar.part_of_readAll? hquiet hread
  have htop : TopLevel ns := ⟨hpart.row.shaped, fun x hx => (hpart.forall_heads x hx).1⟩
  exact htop.program hquiet.comments _

/-- The root of the tree of a text is a program. -/
theorem kind_of_parse? {text : String} {root : Node} (h : parse? text = some root) :
    root.kind = .program := by
  obtain ⟨lexed, -, h⟩ := Option.bind_eq_some_iff.mp h
  obtain ⟨ns, -, h⟩ := Option.bind_eq_some_iff.mp h
  obtain rfl := Option.some.inj h
  rfl

end BeanMapper.Java
