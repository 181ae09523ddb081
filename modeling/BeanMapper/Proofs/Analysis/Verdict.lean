import BeanMapper.Locate

/-!
# Verdicts — what locating answers, row by row

    Locating climbs from the node at the cursor, a bounded number of parent
    links, and then asks for two declarations.  `Verdict` is its decision
    table: one constructor a row, with the bound on the climb as a predicate
    on the number of links, so that a table without a bound is one of them.

    * `enclosingMethod?_eq_some_iff_nearest` says that the climb finds the
      first method on the way up, by induction on the bound;
    * `Nearest.unique` holds between any two bounds: where a method is found
      at all, no other bound finds another one, so a nearer method is never
      passed by (`Verdict.mono`);
    * `Verdict.unique` and `verdict_locate` make the table the very function
      (`locate_follows_verdict_table`). -/

namespace BeanMapper

variable {Node : Type}

namespace SyntaxView

/-- The node that a number of parent links lead to. -/
def ancestor? (view : SyntaxView Node) : Nat → Node → Option Node
  | 0, node => some node
  | links + 1, node => (view.parent? node).bind (view.ancestor? links)

/-- The first method among a node and its ancestors stands as many links up as are allowed. -/
def Nearest (view : SyntaxView Node) (within : Nat → Prop) (node : Node)
    (method : EnclosingMethod) : Prop :=
  ∃ links above, within links ∧ view.ancestor? links node = some above
    ∧ view.method? above = some method
    ∧ ∀ fewer < links, ∀ between, view.ancestor? fewer node = some between →
        view.method? between = none

variable {view : SyntaxView Node} {within within' : Nat → Prop} {node above : Node}
  {method method' : EnclosingMethod} {depth links : Nat}

/-! ## The climb -/

/-- A node that is a method is the first one itself. -/
theorem nearest_iff_of_method? {found : EnclosingMethod} (within : Nat → Prop)
    (hwithin : within 0) (hnode : view.method? node = some found) :
    view.Nearest within node method ↔ found = method := by
  constructor
  · rintro ⟨links, top, -, htop, hmethod, hfirst⟩
    cases links with
    | zero =>
        cases htop
        exact Option.some.inj (hnode.symm.trans hmethod)
    | succ links =>
        rw [hfirst 0 (Nat.succ_pos links) node rfl] at hnode
        exact nomatch hnode
  · rintro rfl
    exact ⟨0, node, hwithin, rfl, hnode, fun _ hfewer => absurd hfewer (Nat.not_lt_zero _)⟩

/-- A node that is no method has none above it if it is the root or no link is allowed. -/
theorem not_nearest_of_top (hnode : view.method? node = none)
    (htop : view.parent? node = none ∨ ∀ links, ¬ within (links + 1)) :
    ¬ view.Nearest within node method := by
  rintro ⟨links, top, hwithin, habove, hmethod, -⟩
  cases links with
  | zero =>
      cases habove
      rw [hnode] at hmethod
      exact nomatch hmethod
  | succ links =>
      rcases htop with hroot | hbound
      · rw [ancestor?, hroot] at habove
        exact nomatch habove
      · exact hbound links hwithin

/-- Above a node that is no method, the first method is one link less far away. -/
theorem nearest_parent_iff (hnode : view.method? node = none)
    (hparent : view.parent? node = some above) :
    view.Nearest (fun links => within (links + 1)) above method
      ↔ view.Nearest within node method := by
  have hstep (links : Nat) : view.ancestor? (links + 1) node = view.ancestor? links above := by
    rw [ancestor?, hparent, Option.bind_some]
  constructor
  · rintro ⟨links, top, hwithin, htop, hmethod, hfirst⟩
    refine ⟨links + 1, top, hwithin, (hstep links).trans htop, hmethod, ?_⟩
    intro fewer hfewer between hbetween
    cases fewer with
    | zero =>
        cases hbetween
        exact hnode
    | succ fewer =>
        exact hfirst fewer (Nat.lt_of_succ_lt_succ hfewer) between
          ((hstep fewer).symm.trans hbetween)
  · rintro ⟨links, top, hwithin, htop, hmethod, hfirst⟩
    cases links with
    | zero =>
        cases htop
        rw [hnode] at hmethod
        exact nomatch hmethod
    | succ links =>
        refine ⟨links, top, hwithin, (hstep links).symm.trans htop, hmethod, ?_⟩
        intro fewer hfewer between hbetween
        exact hfirst (fewer + 1) (Nat.succ_lt_succ hfewer) between ((hstep fewer).trans hbetween)

/-- **The climb finds the first method** that the bound allows. -/
theorem enclosingMethod?_eq_some_iff_nearest :
    view.enclosingMethod? depth node = some method ↔ view.Nearest (· ≤ depth) node method := by
  induction depth generalizing node with
  | zero =>
      rw [enclosingMethod?]
      cases hnode : view.method? node with
      | some found =>
          exact Option.some_inj.trans (nearest_iff_of_method? (· ≤ 0) (Nat.le_refl 0) hnode).symm
      | none =>
          exact iff_of_false (fun h => nomatch h)
            (not_nearest_of_top hnode (.inr fun links => Nat.not_succ_le_zero links))
  | succ depth ih =>
      rw [enclosingMethod?]
      cases hnode : view.method? node with
      | some found =>
          exact Option.some_inj.trans
            (nearest_iff_of_method? (· ≤ depth + 1) (Nat.zero_le _) hnode).symm
      | none =>
          dsimp only
          cases hparent : view.parent? node with
          | none =>
              exact iff_of_false (fun h => nomatch h) (not_nearest_of_top hnode (.inl hparent))
          | some parent =>
              rw [Option.bind_some, ih, ← nearest_parent_iff hnode hparent]
              simp only [Nat.add_le_add_iff_right]

/-- **The first method is the same for every bound** that finds one. -/
theorem Nearest.unique (h : view.Nearest within node method)
    (h' : view.Nearest within' node method') : method = method' := by
  obtain ⟨links, above, -, habove, hmethod, hfirst⟩ := h
  obtain ⟨links', above', -, habove', hmethod', hfirst'⟩ := h'
  rcases Nat.lt_trichotomy links links' with hlt | rfl | hlt
  · rw [hfirst' links hlt above habove] at hmethod
    exact nomatch hmethod
  · cases habove.symm.trans habove'
    exact Option.some.inj (hmethod.symm.trans hmethod')
  · rw [hfirst links' hlt above' habove'] at hmethod'
    exact nomatch hmethod'

/-- A bound that allows as much finds what another one finds. -/
theorem Nearest.mono (h : view.Nearest within node method)
    (hwithin : ∀ links, (view.ancestor? links node).isSome → within links → within' links) :
    view.Nearest within' node method := by
  obtain ⟨links, above, hlinks, habove, hrest⟩ := h
  exact ⟨links, above, hwithin links (by rw [habove]; rfl) hlinks, habove, hrest⟩

/-- Beyond the root there is nothing. -/
theorem ancestor?_eq_none (h : view.ancestor? depth node = none) (hle : depth ≤ links) :
    view.ancestor? links node = none := by
  induction depth generalizing node links with
  | zero => exact nomatch h
  | succ depth ih =>
      obtain ⟨links, rfl⟩ : ∃ n, links = n + 1 := ⟨links - 1, by omega⟩
      rw [ancestor?] at h ⊢
      cases hparent : view.parent? node with
      | none => rfl
      | some parent =>
          rw [hparent, Option.bind_some] at h
          exact ih h (by omega)

end SyntaxView

/-! ## The context of a method -/

namespace EnclosingMethod

variable {method : EnclosingMethod} {declarationOf : TypeName → Option Declaration}

theorem context_of_noReturn (h : method.returnType = .void ∨ method.returnType = .missing) :
    method.context declarationOf = .error .voidOrMissingReturnType := by
  rcases h with h | h
  · rw [context, h]
    rfl
  · rw [context, h]
    rfl

/-- Either missing declaration is enough, whatever the other type is. -/
theorem context_of_unresolvable {returned : TypeName} (hreturn : method.returnType = .type returned)
    (hnone : declarationOf returned = none ∨ method.enclosingType = none
      ∨ ∃ enclosing, method.enclosingType = some enclosing ∧ declarationOf enclosing = none) :
    method.context declarationOf = .error .unresolvableType := by
  rw [context, hreturn]
  dsimp only [ReturnType.asType?]
  rcases hnone with htarget | henclosing | ⟨enclosing, henclosing, hsource⟩
  · rw [htarget]
  · rw [henclosing, Option.bind_none]
    cases declarationOf returned <;> rfl
  · rw [henclosing, Option.bind_some, hsource]
    cases declarationOf returned <;> rfl

theorem context_of_located {returned enclosing : TypeName} {target source : Declaration}
    (hreturn : method.returnType = .type returned) (htarget : declarationOf returned = some target)
    (henclosing : method.enclosingType = some enclosing)
    (hsource : declarationOf enclosing = some source) :
    method.context declarationOf = .ok ⟨method.name, target.typeName, source.typeName⟩ := by
  rw [context, hreturn]
  dsimp only [ReturnType.asType?]
  rw [htarget, henclosing, Option.bind_some, hsource]

end EnclosingMethod

/-! ## The decision table -/

/-- What locating answers at an offset, if the climb may take the numbers of links that are
    allowed. -/
inductive Verdict (view : SyntaxView Node) (declarationOf : TypeName → Option Declaration)
    (within : Nat → Prop) (offset : Nat) : Except Abort Context → Prop where
  /-- There is no node at the offset, or no method among it and its ancestors. -/
  | noMethod
      (hnone : ∀ node method, view.nodeAt offset = some node → ¬ view.Nearest within node method) :
      Verdict view declarationOf within offset (.error .noMethodContext)
  /-- The method returns nothing, whatever its enclosing type is. -/
  | noReturn {node : Node} {method : EnclosingMethod} (hnode : view.nodeAt offset = some node)
      (hmethod : view.Nearest within node method)
      (hreturn : method.returnType = .void ∨ method.returnType = .missing) :
      Verdict view declarationOf within offset (.error .voidOrMissingReturnType)
  /-- One of the two types has no declaration, or there is no enclosing type. -/
  | unresolvable {node : Node} {method : EnclosingMethod} {returned : TypeName}
      (hnode : view.nodeAt offset = some node) (hmethod : view.Nearest within node method)
      (hreturn : method.returnType = .type returned)
      (hnone : declarationOf returned = none ∨ method.enclosingType = none
        ∨ ∃ enclosing, method.enclosingType = some enclosing ∧ declarationOf enclosing = none) :
      Verdict view declarationOf within offset (.error .unresolvableType)
  /-- Both types have declarations. -/
  | located {node : Node} {method : EnclosingMethod} {returned enclosing : TypeName}
      {target source : Declaration} (hnode : view.nodeAt offset = some node)
      (hmethod : view.Nearest within node method) (hreturn : method.returnType = .type returned)
      (htarget : declarationOf returned = some target)
      (henclosing : method.enclosingType = some enclosing)
      (hsource : declarationOf enclosing = some source) :
      Verdict view declarationOf within offset
        (.ok ⟨method.name, target.typeName, source.typeName⟩)

variable {view : SyntaxView Node} {declarationOf : TypeName → Option Declaration}
  {within within' : Nat → Prop} {offset depth : Nat} {node : Node} {method : EnclosingMethod}
  {result result' : Except Abort Context}

/-- The rows for a method that was found are those of its context. -/
theorem verdict_context (hnode : view.nodeAt offset = some node)
    (hmethod : view.Nearest within node method) :
    Verdict view declarationOf within offset (method.context declarationOf) := by
  rw [EnclosingMethod.context]
  cases hreturn : method.returnType with
  | missing => exact .noReturn hnode hmethod (.inr hreturn)
  | void => exact .noReturn hnode hmethod (.inl hreturn)
  | type returned =>
      dsimp only [ReturnType.asType?]
      cases htarget : declarationOf returned with
      | none => exact .unresolvable hnode hmethod hreturn (.inl htarget)
      | some target =>
          cases henclosing : method.enclosingType with
          | none => exact .unresolvable hnode hmethod hreturn (.inr (.inl henclosing))
          | some enclosing =>
              rw [Option.bind_some]
              cases hsource : declarationOf enclosing with
              | none =>
                  exact .unresolvable hnode hmethod hreturn
                    (.inr (.inr ⟨enclosing, henclosing, hsource⟩))
              | some source => exact .located hnode hmethod hreturn htarget henclosing hsource

/-- **Locating answers by the table.** -/
theorem verdict_locate :
    Verdict view declarationOf (· ≤ depth) offset (locate view declarationOf depth offset) := by
  rw [locate]
  cases hclimb : (view.nodeAt offset).bind (view.enclosingMethod? depth) with
  | none =>
      apply Verdict.noMethod
      intro node method hnode hmethod
      rw [hnode, Option.bind_some, SyntaxView.enclosingMethod?_eq_some_iff_nearest.mpr hmethod]
        at hclimb
      exact nomatch hclimb
  | some method =>
      obtain ⟨node, hnode, hmethod⟩ := Option.bind_eq_some_iff.mp hclimb
      exact verdict_context hnode (SyntaxView.enclosingMethod?_eq_some_iff_nearest.mp hmethod)

/-- Every row but the first is about a method, and gives the context of that method. -/
theorem Verdict.cases_method (h : Verdict view declarationOf within offset result) :
    (result = .error .noMethodContext
        ∧ ∀ node method, view.nodeAt offset = some node → ¬ view.Nearest within node method)
      ∨ ∃ node method, view.nodeAt offset = some node ∧ view.Nearest within node method
        ∧ result = method.context declarationOf := by
  cases h with
  | noMethod hnone => exact .inl ⟨rfl, hnone⟩
  | noReturn hnode hmethod hreturn =>
      exact .inr ⟨_, _, hnode, hmethod, (EnclosingMethod.context_of_noReturn hreturn).symm⟩
  | unresolvable hnode hmethod hreturn hnone =>
      have hcontext := EnclosingMethod.context_of_unresolvable hreturn hnone
      exact .inr ⟨_, _, hnode, hmethod, hcontext.symm⟩
  | located hnode hmethod hreturn htarget henclosing hsource =>
      have hcontext := EnclosingMethod.context_of_located hreturn htarget henclosing hsource
      exact .inr ⟨_, _, hnode, hmethod, hcontext.symm⟩

/-- **The rows exclude each other.** -/
theorem Verdict.unique (h : Verdict view declarationOf within offset result)
    (h' : Verdict view declarationOf within offset result') : result = result' := by
  rcases h.cases_method with ⟨rfl, hnone⟩ | ⟨node, method, hnode, hmethod, rfl⟩
  · rcases h'.cases_method with ⟨rfl, -⟩ | ⟨node, method, hnode, hmethod, -⟩
    · rfl
    · exact absurd hmethod (hnone node method hnode)
  · rcases h'.cases_method with ⟨-, hnone⟩ | ⟨node', method', hnode', hmethod', rfl⟩
    · exact absurd hmethod (hnone node method hnode)
    · cases hnode.symm.trans hnode'
      rw [hmethod.unique hmethod']

/-- **A method that was found stays found** where the climb may take more links. -/
theorem Verdict.mono (h : Verdict view declarationOf within offset result)
    (hfound : result ≠ .error .noMethodContext) (hwithin : ∀ links, within links → within' links) :
    Verdict view declarationOf within' offset result := by
  rcases h.cases_method with ⟨rfl, -⟩ | ⟨node, method, hnode, hmethod, rfl⟩
  · exact absurd rfl hfound
  · exact verdict_context hnode (hmethod.mono fun links _ => hwithin links)

/-- **Beyond the root no bound counts.** -/
theorem Verdict.of_beyond (h : Verdict view declarationOf within offset result)
    (hwithin : ∀ node, view.nodeAt offset = some node →
      ∀ links, (view.ancestor? links node).isSome → (within links ↔ within' links)) :
    Verdict view declarationOf within' offset result := by
  rcases h.cases_method with ⟨rfl, hnone⟩ | ⟨node, method, hnode, hmethod, rfl⟩
  · apply Verdict.noMethod
    intro node method hnode hmethod
    apply hnone node method hnode
    exact hmethod.mono fun links hlinks => (hwithin node hnode links hlinks).mpr
  · refine verdict_context hnode ?_
    exact hmethod.mono fun links hlinks => (hwithin node hnode links hlinks).mp

/-- **Locating is its decision table**, for every tree, every way to find declarations, every offset
    and every bound on the climb, however large.  The first method at or above the node counts, so
    a larger bound changes nothing but an answer that there is no method; and a bound that is no
    less than the number of links to the root gives the answer of the table without a bound. -/
theorem locate_follows_verdict_table (view : SyntaxView Node)
    (declarationOf : TypeName → Option Declaration) (offset : Nat) :
    (∀ depth result, locate view declarationOf depth offset = result
        ↔ Verdict view declarationOf (· ≤ depth) offset result)
    ∧ (∀ depth deeper, depth ≤ deeper →
        locate view declarationOf depth offset ≠ .error .noMethodContext →
          locate view declarationOf deeper offset = locate view declarationOf depth offset)
    ∧ ∀ node length, view.nodeAt offset = some node → view.ancestor? (length + 1) node = none →
        ∀ depth, length ≤ depth → ∀ result,
          locate view declarationOf depth offset = result
            ↔ Verdict view declarationOf (fun _ => True) offset result := by
  have htable (depth : Nat) (result : Except Abort Context) :
      locate view declarationOf depth offset = result
        ↔ Verdict view declarationOf (· ≤ depth) offset result := by
    constructor
    · rintro rfl
      exact verdict_locate
    · exact verdict_locate.unique
  refine ⟨htable, ?deeper, ?unbounded⟩
  case deeper =>
    intro depth deeper hle hfound
    rw [htable]
    exact verdict_locate.mono hfound fun links hlinks => Nat.le_trans hlinks hle
  case unbounded =>
    intro node length hnode hroot depth hle result
    have hbeyond (node' : Node) (hnode' : view.nodeAt offset = some node') (links : Nat)
        (hlinks : (view.ancestor? links node').isSome) : links ≤ depth ↔ True := by
      cases hnode.symm.trans hnode'
      refine iff_true_intro (Nat.le_of_not_lt ?_)
      intro hlt
      rw [SyntaxView.ancestor?_eq_none hroot (by omega)] at hlinks
      exact nomatch hlinks
    rw [htable]
    constructor
    · intro h
      exact h.of_beyond hbeyond
    · intro h
      exact h.of_beyond fun node' hnode' links hlinks => (hbeyond node' hnode' links hlinks).symm

/-- A tree in which every node has one node above it, down from the root, which is node zero. -/
def chainView (methods : List (Option EnclosingMethod)) : SyntaxView Nat where
  nodeAt offset := if offset < methods.length then some offset else none
  parent? node := if node = 0 then none else some (node - 1)
  method? node := methods[node]?.bind id

/-- A method that returns nothing, around another method, around two more nodes. -/
def nestedMethods : SyntaxView Nat :=
  chainView [some ⟨"run", .void, some ⟨"Order"⟩⟩,
    some ⟨"toDto", .type ⟨"OrderDTO"⟩, some ⟨"Order"⟩⟩, none, none]

/-- The two types of the inner method. -/
def declarationOfNested : TypeName → Option Declaration := fun t =>
  [Declaration.ofClass "Order", Declaration.ofClass "OrderDTO"].find? (·.typeName == t)

/-- Two links lead to the inner method, one is too few, and the largest bound of 64 bits leads to
    the inner method as well, not to the one around it. -/
theorem locate_in_nested_methods :
    locate nestedMethods declarationOfNested 1 3 = .error .noMethodContext
      ∧ locate nestedMethods declarationOfNested 2 3 = .ok ⟨"toDto", ⟨"OrderDTO"⟩, ⟨"Order"⟩⟩
      ∧ locate nestedMethods declarationOfNested (UInt64.size - 1) 3
        = .ok ⟨"toDto", ⟨"OrderDTO"⟩, ⟨"Order"⟩⟩
      ∧ Verdict nestedMethods declarationOfNested (fun _ => True) 3
        (.ok ⟨"toDto", ⟨"OrderDTO"⟩, ⟨"Order"⟩⟩) := by
  obtain ⟨-, hdeeper, hunbounded⟩ :=
    locate_follows_verdict_table nestedMethods declarationOfNested 3
  have hfew : locate nestedMethods declarationOfNested 1 3 = .error .noMethodContext := rfl
  have htwo : locate nestedMethods declarationOfNested 2 3
      = .ok ⟨"toDto", ⟨"OrderDTO"⟩, ⟨"Order"⟩⟩ := rfl
  have hlarge := (hdeeper 2 (UInt64.size - 1) (by decide) (by rw [htwo]; exact nofun)).trans htwo
  exact ⟨hfew, htwo, hlarge, (hunbounded 3 3 (by decide) (by decide) _ (by decide) _).mp hlarge⟩

end BeanMapper
