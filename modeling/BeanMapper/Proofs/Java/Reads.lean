import Mathlib.Data.Option.Basic
import BeanMapper.Proofs.Java.Spans

/-! # Reads — what a parser gives where it succeeds

    `Reads r p Q` says of a parser that from a state of the reader it succeeds
    with results of a certain form only.  The rules of the grammar ask each
    other for goals, so this is said under the assumption that goals give what
    they should (`Meets`).  Most rules fall under one of four forms:

    * `Skips` — tokens are read and no node is given;
    * `Yields` and `YieldsOne` — nodes, or one, that may stand anywhere;
    * `Builds` — a kind and the nodes that make up a node of that kind.

    A parser that only looks ahead (`Looks`) leaves the state as it is, and what
    holds of a result wherever it was read from (`Gives`) can be said apart. -/

namespace BeanMapper.Java

open BeanMapper.Java.Parser

/-- The heads of nodes in no role. -/
abbrev Plain : Head → Prop := InRole .none

/-- The parts of strings that are still to be read stand for no tokens. -/
def Clean (r : Reader) : Prop := ∀ t ∈ r.rest, ∀ n ∈ t.parts, Inert n

/-- What is read later was clean before. -/
theorem Clean.advance {r r' : Reader} (h : Clean r) (hr : Advance r r') : Clean r' :=
  fun t ht => h t (hr.subset ht)

/-- A single node of a kind that has no role. -/
structure Lone (kind : Kind) (r r' : Reader) (n : Node) : Prop where
  /-- It was read between two states of a reader. -/
  row : Row r r' [n]
  /-- It is of that kind and has no role. -/
  head : n.head = (kind, .none)

/-- What goals should give: the body of a class, or nodes that may stand anywhere. -/
def Reached : Goal → Reader → Reader → List Node → Prop
  | .classBody, r, r', ns => ∃ n, ns = [n] ∧ Lone .classBody r r' n
  | _, r, r', ns => Part Plain r r' ns

/-- Whether a goal gives nodes that may stand anywhere. -/
def isPlainGoal : Goal → Bool
  | .classBody => false
  | _ => true

/-- Goals give what they should. -/
def Meets (goals : Goals) : Prop :=
  ∀ goal r ns r', Clean r → goals goal r = some (ns, r') → Reached goal r r' ns

/-- From a state of the reader a parser gives results of a certain form only. -/
def Reads {α : Type} (r : Reader) (p : Parser α) (Q : Reader → α → Prop) : Prop :=
  ∀ goals, Meets goals → Clean r → ∀ a r', p goals r = some (a, r') → Advance r r' ∧ Q r' a

/-- A parser only looks ahead. -/
def Looks {α : Type} (p : Parser α) : Prop :=
  ∀ goals r a r', p goals r = some (a, r') → r' = r

/-- A parser gives results of a certain form only, whatever goals give. -/
def Gives {α : Type} (p : Parser α) (Q : α → Prop) : Prop :=
  ∀ goals r a r', p goals r = some (a, r') → Q a

section

variable {α β : Type} {r : Reader} {p : Parser α} {f : α → Parser β} {P : Reader → α → Prop}

/-! ## Steps of a parser -/

/-- One step of a parser in terms of its two halves. -/
theorem bind_eq_some_iff {goals : Goals} {x : β × Reader} :
    (p >>= f) goals r = some x ↔ ∃ a r₁, p goals r = some (a, r₁) ∧ f a goals r₁ = some x := by
  show (p goals r).bind (fun y => f y.1 goals y.2) = some x ↔ _
  rw [Option.bind_eq_some_iff]
  constructor
  · rintro ⟨⟨a, r₁⟩, hp, hf⟩
    exact ⟨a, r₁, hp, hf⟩
  · rintro ⟨a, r₁, hp, hf⟩
    exact ⟨(a, r₁), hp, hf⟩

namespace Reads

/-- A result is given where the reader stands, so what holds here holds of it. -/
theorem pure {Q : Reader → α → Prop} {a : α} (h : Q r a) : Reads r (Pure.pure a) Q := by
  intro goals _ _ b r' hb
  obtain ⟨rfl, rfl⟩ : a = b ∧ r = r' := by
    have := Option.some.inj (show some (a, r) = some (b, r') from hb)
    exact ⟨congrArg Prod.fst this, congrArg Prod.snd this⟩
  exact ⟨.refl r, h⟩

/-- Reading in two steps, the second from where the first one stopped. -/
theorem bind {Q : Reader → β → Prop} (hp : Reads r p P)
    (hf : ∀ r₁ a, P r₁ a → Reads r₁ (f a) Q) : Reads r (p >>= f) Q := by
  intro goals hgoals hclean b r' hb
  obtain ⟨a, r₁, ha, hb⟩ := bind_eq_some_iff.mp hb
  obtain ⟨hr₁, hP⟩ := hp goals hgoals hclean a r₁ ha
  obtain ⟨hr', hQ⟩ := hf r₁ a hP goals hgoals (hclean.advance hr₁) b r' hb
  exact ⟨hr₁.trans hr', hQ⟩

/-- What follows from the form of a result holds of what is read. -/
theorem mono {Q : Reader → α → Prop} (h : Reads r p P) (hPQ : ∀ r' a, P r' a → Q r' a) :
    Reads r p Q := by
  intro goals hgoals hclean a r' ha
  obtain ⟨hr, hP⟩ := h goals hgoals hclean a r' ha
  exact ⟨hr, hPQ r' a hP⟩

/-- What a parser gives is known of what it reads as well. -/
theorem gives {Q : α → Prop} (h : Reads r p P) (hQ : Gives p Q) :
    Reads r p fun r' a => P r' a ∧ Q a := by
  intro goals hgoals hclean a r' ha
  obtain ⟨hr, hP⟩ := h goals hgoals hclean a r' ha
  exact ⟨hr, hP, hQ goals r a r' ha⟩

/-- A parser that fails gives nothing, so anything holds of what it gives. -/
theorem failure {Q : Reader → α → Prop} : Reads r (failure : Parser α) Q := by
  intro goals _ _ a r' h
  exact nomatch (show (none : Option (α × Reader)) = some (a, r') from h)

/-- What follows a test is read where the test holds. -/
theorem guarded {Q : Reader → α → Prop} {c : Prop} [Decidable c] {f : Unit → Parser α}
    (h : c → Reads r (f ()) Q) : Reads r (guard c >>= f) Q := by
  by_cases hc : c
  · rw [guard, if_pos hc]
    exact (Reads.pure (Q := fun r' _ => r' = r) rfl).bind fun _ _ hr => hr ▸ h hc
  · rw [guard, if_neg hc]
    exact (Reads.failure (Q := fun _ _ => False)).bind fun _ _ h => h.elim

/-- Looking ahead changes nothing. -/
theorem look {Q : Reader → β → Prop} (hp : Looks p) (hf : ∀ a, Reads r (f a) Q) :
    Reads r (p >>= f) Q := by
  intro goals hgoals hclean b r' h
  obtain ⟨a, r₁, ha, hb⟩ := bind_eq_some_iff.mp h
  obtain rfl := hp goals r a r₁ ha
  exact hf a goals hgoals hclean b r' hb

end Reads

/-! ## What is given at the end -/

namespace Gives

/-- A result has its form wherever the reader stands. -/
theorem pure {Q : α → Prop} {a : α} (h : Q a) : Gives (Pure.pure a : Parser α) Q := by
  intro goals r b r' hb
  obtain rfl : a = b := congrArg Prod.fst
    (Option.some.inj (show some (a, r) = some (b, r') from hb))
  exact h

/-- What is given in two steps is given by the second for a result of the first. -/
theorem bind {P : α → Prop} {Q : β → Prop} (hp : Gives p P) (hf : ∀ a, P a → Gives (f a) Q) :
    Gives (p >>= f) Q := by
  intro goals r b r' hb
  obtain ⟨a, r₁, ha, hb⟩ := bind_eq_some_iff.mp hb
  exact hf a (hp goals r a r₁ ha) goals r₁ b r' hb

/-- What follows from the form of a result holds of what is given. -/
theorem mono {P Q : α → Prop} (h : Gives p P) (hPQ : ∀ a, P a → Q a) : Gives p Q :=
  fun goals r a r' ha => hPQ a (h goals r a r' ha)

/-- What is known of the last step is known of all of them. -/
theorem last {Q : β → Prop} (hf : ∀ a, Gives (f a) Q) : Gives (p >>= f) Q :=
  bind (P := fun _ => True) (fun _ _ _ _ _ => trivial) fun a _ => hf a

end Gives

/-! ## Looking ahead -/

namespace Looks

/-- Giving a result takes no token. -/
theorem pure (a : α) : Looks (Pure.pure a : Parser α) := by
  intro goals r b r' h
  have := Option.some.inj (show some (a, r) = some (b, r') from h)
  exact (congrArg Prod.snd this).symm

/-- Looking ahead twice is looking ahead. -/
theorem bind (hp : Looks p) (hf : ∀ a, Looks (f a)) : Looks (p >>= f) := by
  intro goals r b r' h
  obtain ⟨a, r₁, ha, hb⟩ := bind_eq_some_iff.mp h
  obtain rfl := hp goals r a r₁ ha
  exact hf a goals r₁ b r' hb

/-- Either branch of a choice may look ahead. -/
theorem ite {c : Prop} [Decidable c] {q : Parser α} (hp : Looks p) (hq : Looks q) :
    Looks (if c then p else q) := by
  split
  · exact hp
  · exact hq

/-- A parser that fails takes no token either. -/
theorem failure : Looks (failure : Parser α) := by
  intro goals r a r' h
  exact nomatch (show (none : Option (α × Reader)) = some (a, r') from h)

/-- A test takes no token. -/
theorem test (c : Prop) [Decidable c] : Looks (guard c : Parser Unit) := by
  rw [guard]
  exact Looks.ite (.pure ()) .failure

/-- The token some places ahead stays where it is. -/
theorem ahead? (n : Nat) : Looks (Parser.ahead? n) := by
  intro goals r a r' h
  have := Option.some.inj (show some (r.rest[n]?, r) = some (a, r') from h)
  exact (congrArg Prod.snd this).symm

/-- Trying whether a parser would succeed takes no token, whatever the parser reads. -/
theorem canRead (p : Parser α) : Looks (Parser.canRead p) := by
  intro goals r a r' h
  rw [Parser.canRead] at h
  split at h
  · exact (congrArg Prod.snd (Option.some.inj h)).symm
  · exact (congrArg Prod.snd (Option.some.inj h)).symm

end Looks

/-- The next token stays where it is. -/
theorem looks_next? : Looks next? := .ahead? 0

/-- Asking for a symbol reads no token. -/
theorem looks_atSymbol (s : String) : Looks (atSymbol s) :=
  .bind looks_next? fun _ => .pure _

/-- Asking for a word reads no token. -/
theorem looks_atWord (w : String) : Looks (atWord w) :=
  .bind looks_next? fun _ => .pure _

end

/-! ## Passing over tokens -/

/-- A parser reads tokens and gives no node. -/
def Skips {α : Type} (p : Parser α) : Prop := ∀ r, Reads r p fun r' _ => Advance r r'

/-- A token is read off the front, and its parts stand for no tokens. -/
theorem reads_token (r : Reader) :
    Reads r token fun r' t =>
      (r.rest = t :: r'.rest ∧ r'.last = t.stop) ∧ ∀ n ∈ t.parts, Inert n := by
  intro goals _ hclean t r' h
  obtain ⟨rest, last⟩ := r
  cases rest with
  | nil => exact nomatch h
  | cons u us =>
      have := Option.some.inj (show some (u, (⟨us, u.stop⟩ : Reader)) = some (t, r') from h)
      obtain ⟨rfl, rfl⟩ := Prod.mk.inj this
      exact ⟨.token (.refl _), ⟨rfl, rfl⟩, hclean u List.mem_cons_self⟩

/-- Passing over a token gives no node. -/
theorem skips_token : Skips token := fun r =>
  (reads_token r).mono fun _ _ h => .of_token h.1.1 h.1.2

/-- Where a symbol is read, less is left to be read. -/
theorem reads_symbol (s : String) (r : Reader) :
    Reads r (symbol s) fun r' _ => Advance r r' ∧ r'.rest.length < r.rest.length := by
  refine .look (looks_atSymbol s) fun _ => .look (.test _) fun _ => ?_
  refine (reads_token r).bind fun r₁ t ⟨⟨hrest, hlast⟩, _⟩ => .pure ⟨.of_token hrest hlast, ?_⟩
  rw [hrest]
  exact Nat.lt_succ_self _

/-- A symbol is passed over and gives no node. -/
theorem skips_symbol (s : String) : Skips (symbol s) := fun r =>
  (reads_symbol s r).mono fun _ _ h => h.1

/-- A word is passed over and gives no node. -/
theorem skips_word (w : String) : Skips (word w) := fun r =>
  .look (looks_atWord w) fun _ => .look (.test _) fun _ => (skips_token r).bind fun _ _ h => .pure h

/-- A symbol that may stand here is passed over, and without it nothing happens. -/
theorem skips_trySymbol (s : String) : Skips (trySymbol s) := by
  intro r
  refine .look (looks_atSymbol s) fun b => ?_
  split
  · exact (skips_token r).bind fun _ _ h => .pure h
  · exact .pure (.refl r)

/-- A word that may stand here is passed over, and without it nothing happens. -/
theorem skips_tryWord (w : String) : Skips (tryWord w) := by
  intro r
  refine .look (looks_atWord w) fun b => ?_
  split
  · exact (skips_token r).bind fun _ _ h => .pure h
  · exact .pure (.refl r)

/-- Any number of tokens is passed over; by induction on their number. -/
theorem skips_skip (n : Nat) : Skips (skip n) := by
  induction n with
  | zero => exact fun r => .pure (.refl r)
  | succ n ih =>
      intro r
      refine (skips_token r).bind fun r₁ _ h₁ => ?_
      exact (ih r₁).mono fun _ _ h₂ => h₁.trans h₂

/-! ## Reading nodes -/

/-- A parser gives nodes that may stand anywhere, with heads of a certain form. -/
def Yields (ρ : Head → Prop) (p : Parser (List Node)) : Prop := ∀ r, Reads r p (Part ρ r)

/-- A parser gives one node that may stand anywhere, with a head of a certain form. -/
def YieldsOne (ρ : Head → Prop) (p : Parser Node) : Prop :=
  ∀ r, Reads r p fun r' n => Part ρ r r' [n]

variable {ρ σ : Head → Prop} {p : Parser (List Node)} {q : Parser Node} {r : Reader}

/-- Heads of a form have any form that follows from it. -/
theorem Yields.mono (h : Yields ρ p) (hρ : ∀ x, ρ x → σ x) : Yields σ p :=
  fun r => (h r).mono fun _ _ hp => hp.mono hρ

/-- What is known of the heads may be forgotten. -/
theorem Yields.any (h : Yields ρ p) : Yields AnyHead p := h.mono fun _ _ => trivial

/-- A node of a known kind is in particular one that may stand anywhere. -/
theorem YieldsOne.plain {kind : Kind} (h : YieldsOne (IsHead kind .none) q) : YieldsOne Plain q :=
  fun r => (h r).mono fun _ _ hn => hn.mono fun _ hx => congrArg Prod.snd hx

/-- One node is a list of nodes. -/
theorem YieldsOne.one (h : YieldsOne ρ q) : Yields ρ (one q) :=
  fun r => (h r).bind fun _ _ hn => .pure hn

/-- A node is read into a role. -/
theorem Reads.as {P : Reader → Node → Prop} (h : Reads r q P) (role : Role) :
    Reads r (as role q) fun r' ns => ∃ n, P r' n ∧ ns = [n.inRole role] :=
  h.bind fun _ n hn => .pure ⟨n, hn, rfl⟩

/-- A node that is read into a role has that role, whatever its kind. -/
theorem YieldsOne.as (h : YieldsOne ρ q) (role : Role) : Yields (InRole role) (as role q) :=
  fun r => ((h r).as role).mono fun _ _ ⟨_, hn, hns⟩ => hns ▸ hn.inRole role

/-- A node of a known kind keeps it in a role. -/
theorem YieldsOne.as_head {kind : Kind} (h : YieldsOne (IsHead kind .none) q) (role : Role) :
    Yields (IsHead kind role) (Parser.as role q) := by
  refine fun r => ((h r).as role).mono fun r' ns ⟨n, hn, hns⟩ => ?_
  subst hns
  have hkind : n.kind = kind := congrArg Prod.fst (hn.form n (List.mem_singleton_self n))
  refine ⟨(hn.inRole role).row, (hn.inRole role).free, List.forall_mem_singleton.mpr ?_⟩
  exact Prod.ext ((Node.inRole_kind n role).trans hkind) (Node.inRole_role n role)

/-- Where a condition fails there are no nodes, and those have any form. -/
theorem Yields.onlyIf (h : Yields ρ p) (b : Bool) : Yields ρ (onlyIf b p) := by
  intro r
  rw [Parser.onlyIf]
  split
  · exact h r
  · exact .pure (.nil (.refl r))

/-- A parser is repeated; by induction on how often it may be. -/
theorem Yields.manyUpTo {c : Parser Bool} (hc : Looks c) (h : Yields ρ p) (fuel : Nat) :
    Yields ρ (manyUpTo c p fuel) := by
  induction fuel with
  | zero => exact fun r => .pure (.nil (.refl r))
  | succ fuel ih =>
      intro r
      refine .look hc fun b => ?_
      split
      · refine (h r).bind fun r₁ first h₁ => ?_
        refine (ih r₁).bind fun r₂ more h₂ => ?_
        exact .pure (h₁.append h₂)
      · exact .pure (.nil (.refl r))

/-- The number of repetitions is bounded by that of the tokens. -/
theorem Yields.many {c : Parser Bool} (hc : Looks c) (h : Yields ρ p) : Yields ρ (many c p) :=
  fun r => h.manyUpTo hc (r.rest.length + 1) r

/-- The separators give no nodes. -/
theorem Yields.separatedBy (h : Yields ρ p) (separator : String) :
    Yields ρ (separatedBy separator p) := by
  intro r
  have hmore : Yields ρ (do symbol separator; p) := fun r =>
    (skips_symbol separator r).bind fun r₁ _ h₁ => (h r₁).mono fun _ _ hp => hp.skip h₁
  refine (h r).bind fun r₁ first h₁ => ?_
  refine (hmore.many (looks_atSymbol separator) r₁).bind fun r₂ more h₂ => ?_
  exact .pure (h₁.append h₂)

/-- Neither the commas of a list nor the symbol that ends it give nodes. -/
theorem Yields.listUntil (h : Yields ρ p) (close : String) : Yields ρ (listUntil close p) := by
  intro r
  refine .look (looks_atSymbol close) fun b => ?_
  refine ((h.separatedBy ",").onlyIf (!b) r).bind fun r₁ items h₁ => ?_
  refine (skips_symbol close r₁).bind fun r₂ _ h₂ => ?_
  exact .pure (h₁.stop h₂)

/-- An item of a list with the comma behind it. -/
theorem Yields.andComma (h : Yields ρ p) {c : Parser Bool} (hc : Looks c) (separator : String) :
    Yields ρ (do
      let item ← p
      guard ((← trySymbol separator) || (← c))
      return item) := by
  intro r
  refine (h r).bind fun r₁ item h₁ => ?_
  refine (skips_trySymbol separator r₁).bind fun r₂ _ h₂ => ?_
  refine .look hc fun _ => .look (.test _) fun _ => ?_
  exact .pure (h₁.stop h₂)

/-- The comma at the end of a list makes no difference to its nodes. -/
theorem Yields.looseListUntil (h : Yields ρ p) (close : String) :
    Yields ρ (looseListUntil close p) := by
  intro r
  refine (skips_trySymbol "," r).bind fun r₁ isBare h₁ => ?_
  have hitems := (h.andComma (looks_atSymbol close) ",").many
    (.bind (looks_atSymbol close) fun b => .pure (!b))
  refine (hitems.onlyIf (!isBare) r₁).bind fun r₂ items h₂ => ?_
  refine (skips_symbol close r₂).bind fun r₃ _ h₃ => ?_
  exact .pure ((h₂.skip h₁).stop h₃)

/-! ## Asking for goals -/

/-- A goal gives what it should, and that was read from here. -/
theorem reads_reach (goal : Goal) (r : Reader) : Reads r (reach goal) (Reached goal r) := by
  intro goals hgoals hclean ns r' h
  have hreached := hgoals goal r ns r' hclean h
  refine ⟨?_, hreached⟩
  cases goal <;> first | exact hreached.advance | exact hreached.choose_spec.2.row.advance

/-- A goal that is no body of a class gives nodes in no role. -/
theorem yields_reach {goal : Goal} (hgoal : isPlainGoal goal = true) : Yields Plain (reach goal) := by
  intro r
  refine (reads_reach goal r).mono fun r' ns h => ?_
  cases goal <;> first | exact h | exact absurd hgoal (by decide)

/-- A choice between two such goals is one of them. -/
theorem isPlainGoal_ite {b : Bool} {goal₁ goal₂ : Goal} (h₁ : isPlainGoal goal₁ = true)
    (h₂ : isPlainGoal goal₂ = true) : isPlainGoal (if b then goal₁ else goal₂) = true := by
  cases b
  · exact h₂
  · exact h₁

/-- Where a goal gives a single node, the node is in no role. -/
theorem yieldsOne_reachOne {goal : Goal} (hgoal : isPlainGoal goal = true) :
    YieldsOne Plain (reachOne goal) := by
  intro r
  refine (yields_reach hgoal r).bind fun r₁ ns h => ?_
  split
  · exact .pure h
  · exact .failure

/-- The body of a class is a node of that kind. -/
theorem reads_reachOne_classBody (r : Reader) : Reads r (reachOne .classBody) (Lone .classBody r) := by
  refine (reads_reach .classBody r).bind fun r₁ ns h => ?_
  obtain ⟨n, rfl, hn⟩ := h
  exact .pure hn

/-! ## Building nodes -/

/-- A kind and nodes that make up a node of that kind, also with other nodes in no role in front. -/
structure Completes (r r' : Reader) (x : Kind × List Node) : Prop where
  /-- The node may stand anywhere. -/
  free : x.1.isFree = true
  /-- The nodes make it up. -/
  fills : ∀ r₀ ns, Part Plain r₀ r ns → Fills x.1 r₀ r' (ns ++ x.2)

/-- A parser gives a kind and the nodes that make up a node of that kind. -/
def Builds (p : Parser (Kind × List Node)) : Prop := ∀ r, Reads r p (Completes r)

/-- Any parts make up a node of which nothing is asked. -/
theorem Completes.of_part {kind : Kind} {r' : Reader} {ns : List Node}
    (hkind : kind.isOrdinary = true) (h : Part ρ r r' ns) : Completes r r' (kind, ns) :=
  ⟨(Kind.isOrdinary_iff.mp hkind).1, fun _ _ hns => (hns.join h).fills hkind⟩

/-- Nodes in no role may stand in front. -/
theorem Completes.prepend {kind : Kind} {r₁ r' : Reader} {ms ns : List Node}
    (h : Completes r₁ r' (kind, ns)) (hms : Part Plain r r₁ ms) :
    Completes r r' (kind, ms ++ ns) := by
  refine ⟨h.free, fun r₀ ks hks => ?_⟩
  have := h.fills r₀ (ks ++ ms) (hks.append hms)
  rwa [List.append_assoc] at this

/-- A kind of which nothing is asked, over any parts. -/
theorem Yields.builds {kind : Kind} (h : Yields ρ p) (hkind : kind.isOrdinary = true) :
    Builds (do return (kind, ← p)) :=
  fun r => (h r).bind fun _ _ hns => .pure (.of_part hkind hns)

/-- A node that was read is a part of the nodes around it. -/
theorem Part.of_spans {r r' : Reader} {n : Node} (h : Spans r r' n)
    (hfree : n.kind.isFree = true) (hρ : ρ n.head) : Part ρ r r' [n] where
  row := h.single
  free := List.forall_mem_singleton.mpr hfree
  form := List.forall_mem_singleton.mpr hρ

namespace Reads

/-- The next token is the first of those that are left. -/
theorem next? : Reads r next? fun r' t => r' = r ∧ t = r.rest[0]? := by
  intro goals _ _ t r' h
  have := Option.some.inj (show some (r.rest[0]?, r) = some (t, r') from h)
  obtain ⟨rfl, rfl⟩ := Prod.mk.inj this
  exact ⟨.refl _, rfl, rfl⟩

/-- Where the next token starts. -/
theorem position : Reads r position fun r' start => r' = r ∧ ∃ t, r.rest.head? = some t ∧ t.start = start := by
  intro goals hgoals hclean
  obtain ⟨rest, last⟩ := r
  cases rest with
  | nil => exact fun a r' h => nomatch h
  | cons t rest =>
      intro start r' h
      have := Option.some.inj (show some (t.start, (⟨t :: rest, last⟩ : Reader)) = some (start, r') from h)
      obtain ⟨rfl, rfl⟩ := Prod.mk.inj this
      exact ⟨.refl _, rfl, t, rfl, rfl⟩

/-- Where the last token ends is kept by the reader. -/
theorem lastStop : Reads r lastStop fun r' stop => r' = r ∧ stop = r.last := by
  intro goals _ _ stop r' h
  have := Option.some.inj (show some (r.last, r) = some (stop, r') from h)
  obtain ⟨rfl, rfl⟩ := Prod.mk.inj this
  exact ⟨.refl _, rfl, rfl⟩

/-- A node over what makes it up; what is known of its kind and its parts stays known. -/
theorem spanOf {p : Parser (Kind × List Node)} {K : Reader → Kind → List Node → Prop}
    (h : Reads r p fun r' x => Fills x.1 r r' x.2 ∧ K r' x.1 x.2) :
    Reads r (spanOf p) fun r' n => Spans r r' n ∧ K r' n.kind n.children ∧ n.role = .none := by
  refine position.bind fun r₁ start hstart => ?_
  obtain ⟨rfl, t, ht, rfl⟩ := hstart
  refine h.bind fun r₂ ⟨kind, children⟩ hp => ?_
  refine lastStop.bind fun r₃ stop hstop => ?_
  obtain ⟨rfl, rfl⟩ := hstop
  exact .pure ⟨hp.1.spans ht .none, hp.2, rfl⟩

/-- A node of a known kind over what makes it up. -/
theorem span {kind : Kind} {K : Reader → List Node → Prop}
    (h : Reads r p fun r' ns => Fills kind r r' ns ∧ K r' ns) :
    Reads r (span kind p) fun r' n =>
      Spans r r' n ∧ n.head = (kind, .none) ∧ K r' n.children := by
  refine (spanOf (K := fun r' k ns => k = kind ∧ K r' ns) ?_).mono ?_
  · exact h.bind fun _ _ hns => .pure ⟨hns.1, rfl, hns.2⟩
  · exact fun r' n ⟨hs, hk, hrole⟩ => ⟨hs, Prod.ext hk.1 hrole, hk.2⟩

/-- A node that starts where its first part does. -/
theorem afterOf {p : Parser (Kind × List Node)} {r₀ : Reader} {n : Node}
    (hn : Part Plain r₀ r [n]) (h : Reads r p (Completes r)) :
    Reads r (afterOf n p) fun r' m => Part Plain r₀ r' [m] := by
  obtain ⟨r₁, r₂, h₁, hs, h₂⟩ := hn.row.single
  refine h.bind fun r₃ ⟨kind, more⟩ hmore => ?_
  refine lastStop.bind fun r₄ stop hstop => ?_
  obtain ⟨rfl, rfl⟩ := hstop
  have hfirst : Part Plain r₁ r [n] := ⟨.cons (.refl _) hs (.nil h₂), hn.free, hn.form⟩
  -- the new node starts at the token that the first part starts at
  obtain ⟨t, ht, hstart⟩ := hs.starts
  have hspans := (hmore.fills r₁ _ hfirst).spans ht .none
  rw [← hstart] at hspans
  exact .pure ((Part.of_spans (ρ := Plain) hspans hmore.free rfl).skip h₁)

/-- A node of which nothing is asked grows out of its first part and any others. -/
theorem after {r₀ : Reader} {n : Node} {kind : Kind} (hn : Part Plain r₀ r [n])
    (hkind : kind.isOrdinary = true) (h : Reads r p (Part ρ r)) :
    Reads r (after n kind p) fun r' m => Part Plain r₀ r' [m] :=
  afterOf hn (h.bind fun _ _ hns => .pure (.of_part hkind hns))

/-- A single node of a known kind, wherever it may stand. -/
theorem lone {kind : Kind} (h : Reads r p (Fills kind r)) :
    Reads r (Parser.span kind p) (Lone kind r) := by
  refine (span (K := fun _ _ => True) (h.mono fun _ _ hns => ⟨hns, trivial⟩)).mono ?_
  intro r' n hn
  exact ⟨hn.1.single, hn.2.1⟩

/-- A node of a known kind that may stand anywhere. -/
theorem node {kind : Kind} (hfree : kind.isFree = true) (h : Reads r p (Fills kind r)) :
    Reads r (Parser.span kind p) fun r' n => Part (IsHead kind .none) r r' [n] := by
  refine (lone h).mono fun r' n hn => ?_
  have hkind : n.kind = kind := congrArg Prod.fst hn.head
  refine ⟨hn.row, List.forall_mem_singleton.mpr ?_, List.forall_mem_singleton.mpr hn.head⟩
  rw [hkind]
  exact hfree

end Reads

/-- A node over the kind and the parts that are built stands in no role. -/
theorem Builds.spanOf {p : Parser (Kind × List Node)} (h : Builds p) :
    YieldsOne Plain (spanOf p) := by
  intro r
  have hp : Reads r p fun r' x => Fills x.1 r r' x.2 ∧ x.1.isFree = true :=
    (h r).mono fun r' x hx => ⟨hx.fills r [] (.nil (.refl r)), hx.free⟩
  refine (Reads.spanOf (K := fun _ kind _ => kind.isFree = true) hp).mono fun r' n hn => ?_
  exact .of_spans hn.1 hn.2.1 hn.2.2

/-- A node of which nothing is asked, over any parts. -/
theorem Yields.span {kind : Kind} (h : Yields ρ p) (hkind : kind.isOrdinary = true) :
    YieldsOne Plain (span kind p) :=
  (h.builds hkind).spanOf

/-- A node over a single token has no parts, so it is of any kind of which nothing is asked. -/
theorem yieldsOne_leaf {kind : Kind} (hkind : kind.isOrdinary = true) :
    YieldsOne Plain (leaf kind) := by
  refine Yields.span (ρ := Plain) ?_ hkind
  exact fun r => (skips_token r).bind fun _ _ h => .pure (.nil h)

namespace Gives

variable {kind : Kind}

/-- A kind that is given with what is read. -/
theorem ofKind : Gives (do return (kind, ← p)) fun x => x.1 = kind := .last fun _ => .pure rfl

/-- A node over what is read has the kind that is asked for. -/
theorem span : Gives (span kind p) fun n => n.kind = kind :=
  .last fun _ => .bind ofKind fun _ hkind => .last fun _ => .pure hkind

/-- A node that starts where its first child does has the kind that is asked for. -/
theorem after {n : Node} : Gives (after n kind p) fun m => m.kind = kind :=
  .bind ofKind fun _ hkind => .last fun _ => .pure hkind

/-- What a node has at first and at every step, it has however often it grows. -/
theorem growUpTo {step : Node → Parser Node} {Q : Node → Prop} (hstep : ∀ n, Gives (step n) Q)
    (fuel : Nat) : ∀ n, Q n → Gives (growUpTo step fuel n) Q := by
  induction fuel with
  | zero => exact fun n hn => .pure hn
  | succ fuel ih =>
      intro n hn goals r m r' h
      cases hs : step n goals r with
      | none =>
          simp only [Parser.growUpTo, hs] at h
          obtain ⟨rfl, rfl⟩ := Prod.mk.inj (Option.some.inj h)
          exact hn
      | some x =>
          obtain ⟨bigger, r₁⟩ := x
          simp only [Parser.growUpTo, hs] at h
          exact ih bigger (hstep n goals r bigger r₁ hs) goals r₁ m r' h

end Gives

/-- A parser lets a node grow. -/
def Grows (step : Node → Parser Node) : Prop :=
  ∀ r₀ r n, Part Plain r₀ r [n] → Reads r (step n) fun r' m => Part Plain r₀ r' [m]

/-- A node grows step by step; by induction on how many steps there may be. -/
theorem Grows.growUpTo {step : Node → Parser Node} (h : Grows step) (fuel : Nat) :
    Grows (growUpTo step fuel) := by
  induction fuel with
  | zero => exact fun r₀ r n hn => .pure hn
  | succ fuel ih =>
      intro r₀ r n hn goals hgoals hclean m r' hm
      cases hs : step n goals r with
      | none =>
          simp only [Parser.growUpTo, hs] at hm
          obtain ⟨rfl, rfl⟩ := Prod.mk.inj (Option.some.inj hm)
          exact ⟨.refl r, hn⟩
      | some x =>
          obtain ⟨bigger, r₁⟩ := x
          simp only [Parser.growUpTo, hs] at hm
          obtain ⟨hr₁, hbigger⟩ := h r₀ r n hn goals hgoals hclean bigger r₁ hs
          obtain ⟨hr', hm'⟩ := ih r₀ r₁ bigger hbigger goals hgoals (hclean.advance hr₁) m r' hm
          exact ⟨hr₁.trans hr', hm'⟩

/-- What is read first grows by what is read behind it. -/
theorem YieldsOne.grow {step : Node → Parser Node} (hq : YieldsOne Plain q) (h : Grows step) :
    YieldsOne Plain (do grow step (← q)) := by
  intro r
  refine (hq r).bind fun r₁ n hn => ?_
  exact h.growUpTo (r₁.rest.length + 1) r r₁ n hn

end BeanMapper.Java
