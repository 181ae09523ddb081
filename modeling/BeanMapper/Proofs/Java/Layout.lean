import BeanMapper.Proofs.Java.Positions
import BeanMapper.Proofs.Java.Trees

/-! # Layout — how the nodes of a tree lie in its text

    A node covers what lies between the first and the last token that it was
    read from.  What this gives for every tree is said once:

    * `Advance.ordered` and its neighbours follow the offsets of a reader while
      tokens are read;
    * `Settled` says of a node that its parts lie in it one behind the other, and
      `Laid` says it of every node of a tree (`Spans.laid`);
    * `Clear` says that a comment lies before, behind or inside each node, since
      it overlaps no token (`Spans.clear`), so that it can be put into a tree
      where it lies (`Laid.placeComment`).

    Hence **every tree is laid out in its text** (`laid_of_parse?`). -/

namespace BeanMapper.Java

open Lexer (LiesIn Quiet InOrder IsWord)

/-! ## Offsets of a reader -/

/-- The tokens that are still to be read lie in a text behind what was read, one behind the other. -/
structure Ordered (source : List Char) (r : Reader) : Prop where
  /-- They lie there. -/
  tokens : ∀ t ∈ r.rest, r.last ≤ t.start ∧ LiesIn source t
  /-- Each one ends before the later ones. -/
  sorted : r.rest.Pairwise fun t u => t.stop ≤ u.start

namespace Advance

variable {source : List Char} {r r' : Reader} {t u : Token}

/-- Tokens that are read in order leave tokens in order. -/
theorem ordered (h : Advance r r') (hr : Ordered source r) : Ordered source r' := by
  induction h with
  | refl r => exact hr
  | @token t rest last r h ih =>
      obtain ⟨hbehind, hsorted⟩ := List.pairwise_cons.mp hr.sorted
      exact ih ⟨fun u hu => ⟨hbehind u hu, (hr.tokens u (List.mem_cons_of_mem _ hu)).2⟩, hsorted⟩

/-- What was read last ends no earlier than before. -/
theorem last_le (h : Advance r r') (hr : Ordered source r) : r.last ≤ r'.last := by
  induction h with
  | refl r => exact Nat.le_refl _
  | @token t rest last r h ih =>
      obtain ⟨hle, ht⟩ := hr.tokens t List.mem_cons_self
      have hnext : Ordered source ⟨rest, t.stop⟩ := ordered (.token (.refl _)) hr
      exact Nat.le_trans hle (Nat.le_trans (Nat.le_of_lt ht.lt) (ih hnext))

/-- Either nothing was read, or what was read last is a token. -/
theorem exists_last (h : Advance r r') : r = r' ∨ ∃ t ∈ r.rest, r'.last = t.stop := by
  induction h with
  | refl r => exact .inl rfl
  | @token t rest last r h ih =>
      rcases ih with rfl | ⟨u, hu, hlast⟩
      · exact .inr ⟨t, List.mem_cons_self, rfl⟩
      · exact .inr ⟨u, List.mem_cons_of_mem _ hu, hlast⟩

/-- Either nothing was read, or the first token is behind the reader. -/
theorem passed (h : Advance r r') (hr : Ordered source r) (ht : r.rest.head? = some t) :
    r = r' ∨ t.stop ≤ r'.last := by
  cases h with
  | refl r => exact .inl rfl
  | @token u rest last r h =>
      obtain rfl : u = t := Option.some.inj ht
      have hnext : Ordered source ⟨rest, u.stop⟩ := ordered (.token (.refl _)) hr
      exact .inr (h.last_le hnext)

/-- What is read later starts no earlier. -/
theorem head_le (h : Advance r r') (hr : Ordered source r) (ht : r.rest.head? = some t)
    (hu : r'.rest.head? = some u) : t.start ≤ u.start := by
  have hlies := (hr.tokens t (List.mem_of_mem_head? ht)).2
  have hbehind := ((h.ordered hr).tokens u (List.mem_of_mem_head? hu)).1
  rcases h.passed hr ht with rfl | hpassed
  · obtain rfl : t = u := Option.some.inj (ht.symm.trans hu)
    exact Nat.le_refl _
  · exact Nat.le_trans (Nat.le_of_lt hlies.lt) (Nat.le_trans hpassed hbehind)

/-- Where less is left to be read, what is read later starts behind the first token. -/
theorem head_lt (h : Advance r r') (hr : Ordered source r) (ht : r.rest.head? = some t)
    (hlt : r'.rest.length < r.rest.length) : t.stop ≤ r'.last := by
  rcases h.passed hr ht with rfl | hpassed
  · exact absurd hlt (Nat.lt_irrefl _)
  · exact hpassed

end Advance

/-! ## Nodes that were read -/

namespace Row

variable {source : List Char} {r r' : Reader} {n : Node} {ns : List Node}

/-- Each node of a row was read within it. -/
theorem exists_spans (h : Row r r' ns) (hn : n ∈ ns) :
    ∃ r₁ r₂, Advance r r₁ ∧ Spans r₁ r₂ n ∧ Advance r₂ r' := by
  induction ns generalizing r with
  | nil => exact absurd hn List.not_mem_nil
  | cons m ns ih =>
      cases h with
      | @cons _ r₁ r₂ _ _ _ h₁ hm h =>
          rcases List.mem_cons.mp hn with rfl | hn
          · exact ⟨r₁, r₂, h₁, hm, h.advance⟩
          · obtain ⟨r₃, r₄, h₃, hs, h₄⟩ := ih h hn
            exact ⟨r₃, r₄, h₁.trans (hm.advance.trans h₃), hs, h₄⟩

/-- The nodes of a row start behind what was read before and end before what is read later. -/
theorem within (h : Row r r' ns) (hr : Ordered source r) (hn : n ∈ ns) :
    r.last ≤ n.start ∧ n.stop ≤ r'.last := by
  obtain ⟨r₁, r₂, h₁, hs, h₂⟩ := h.exists_spans hn
  obtain ⟨t, ht, hstart⟩ := hs.starts
  have hr₁ := h₁.ordered hr
  refine ⟨?_, ?_⟩
  · rw [hstart]
    exact Nat.le_trans (h₁.last_le hr) (hr₁.tokens t (List.mem_of_mem_head? ht)).1
  · rw [hs.stop_eq]
    exact h₂.last_le (hs.advance.ordered hr₁)

/-- The nodes of a row lie one behind the other. -/
theorem sorted (h : Row r r' ns) (hr : Ordered source r) : ns.Pairwise Node.Before := by
  induction ns generalizing r with
  | nil => exact .nil
  | cons n ns ih =>
      cases h with
      | @cons _ r₁ r₂ _ _ _ h₁ hn h =>
          have hr₁ := h₁.ordered hr
          have hr₂ := hn.advance.ordered hr₁
          refine List.pairwise_cons.mpr ⟨fun m hm => ?_, ih h hr₂⟩
          obtain ⟨r₃, r₄, h₃, hs, -⟩ := h.exists_spans hm
          obtain ⟨t, ht, hstart⟩ := hn.starts
          obtain ⟨u, hu, hstart'⟩ := hs.starts
          refine ⟨?_, ?_⟩
          · rw [hstart, hstart']
            exact (hn.advance.trans h₃).head_le hr₁ ht hu
          · rw [hn.stop_eq]
            exact (h.within hr₂ hm).1

end Row

/-- The parts of a node lie in it one behind the other. -/
structure Settled (source : List Char) (n : Node) : Prop where
  /-- They lie in it. -/
  inside : ∀ c ∈ n.children, n.start ≤ c.start ∧ c.stop ≤ n.stop
  /-- They lie one behind the other. -/
  sorted : n.children.Pairwise Node.Before
  /-- The text of an identifier is a word. -/
  word : n.kind = .identifier → IsWord (n.text source)
  /-- The parts of a body of a type start behind its first token. -/
  opened : n.kind.isTypeBody = true → n.start < n.stop ∧ ∀ c ∈ n.children, n.start < c.start
  /-- A keyword has no parts but comments. -/
  bare : n.kind.isNamed = false → ∀ c ∈ n.children, Inert c

/-- The nodes of a tree lie in a text. -/
inductive Laid (source : List Char) : Node → Prop
  | mk {n : Node} (here : Settled source n) (below : ∀ c ∈ n.children, Laid source c) :
      Laid source n

namespace Laid

variable {source : List Char} {n c : Node}

theorem here (h : Laid source n) : Settled source n := by
  cases h with
  | mk here below => exact here

theorem child (h : Laid source n) (hc : c ∈ n.children) : Laid source c := by
  cases h with
  | mk here below => exact below c hc

/-- A node without parts that is no word lies in any text. -/
theorem of_leaf (hinert : Inert n) (hleaf : n.children = []) : Laid source n := by
  have hnone (c : Node) : c ∉ n.children := by
    rw [hleaf]
    exact List.not_mem_nil
  refine .mk ⟨fun c hc => absurd hc (hnone c), ?_, ?_, ?_, fun _ c hc => absurd hc (hnone c)⟩
    fun c hc => absurd hc (hnone c)
  · rw [hleaf]
    exact .nil
  · intro hword
    have hkind := hinert.kind
    rw [hword] at hkind
    exact absurd hkind (by decide)
  · intro hbody
    have hkind := hinert.kind
    rw [Kind.isInert_eq_false_of_isTypeBody hbody] at hkind
    exact absurd hkind (by decide)

end Laid

namespace Spans

variable {source : List Char} {r r' : Reader} {n : Node}

/-- The parts of a node that was read from tokens in order lie in it. -/
theorem settled (h : Spans r r' n) (hr : Ordered source r) : Settled source n := by
  cases h with
  | @mk _ r₁ _ t kind role children starts opens row hkind fits opened word bare =>
      have hlies := (hr.tokens t (List.mem_of_mem_head? starts)).2
      have hr₁ := opens.ordered hr
      refine ⟨fun c hc => ?_, row.sorted hr₁, fun hident => ?_, fun hbody => ?_, fun hn c hc => ?_⟩
      · obtain ⟨r₂, r₃, h₂, hs, h₃⟩ := row.exists_spans hc
        obtain ⟨u, hu, hstart⟩ := hs.starts
        refine ⟨?_, (row.within hr₁ hc).2⟩
        rw [hstart]
        exact (opens.trans h₂).head_le hr starts hu
      · obtain ⟨u, hshape, hrest, hlast⟩ := word hident
        rw [hrest] at starts
        obtain rfl := Option.some.inj starts
        show IsWord (Text.slice source u.start r'.last)
        rw [hlast]
        exact hlies.word hshape
      · -- the first token of a body is not read by its parts
        have hpassed := opens.head_lt hr starts (opened hbody)
        have hfirst := Nat.lt_of_lt_of_le hlies.lt hpassed
        refine ⟨Nat.lt_of_lt_of_le hfirst (row.advance.last_le hr₁), fun c hc => ?_⟩
        exact Nat.lt_of_lt_of_le hfirst (row.within hr₁ hc).1
      · exact absurd (bare hn ▸ hc) List.not_mem_nil
  | @string _ _ t role token last parts =>
      have hlies := (hr.tokens t (token ▸ List.mem_cons_self)).2
      refine ⟨fun c hc => ?_, List.pairwise_reverse.mp hlies.parts.sorted, nofun, nofun, nofun⟩
      have hwithin := hlies.parts.within c (List.mem_reverse.mpr hc)
      exact ⟨hwithin.1, hwithin.2.2⟩

end Spans

mutual

/-- A node that was read from tokens in order is laid out. -/
theorem Spans.laid {source : List Char} : ∀ {r r' : Reader} {n : Node}, Ordered source r →
    Spans r r' n → Laid source n
  | _, _, _, hr, .mk starts opens row hkind fits opened word bare =>
      .mk ((Spans.mk starts opens row hkind fits opened word bare).settled hr)
        (Row.laid (opens.ordered hr) row)
  | _, _, _, hr, .string token last parts => by
      have hlies := (hr.tokens _ (by rw [token]; exact List.mem_cons_self)).2
      refine .mk ((Spans.string token last parts).settled hr) fun c hc => ?_
      exact .of_leaf (parts c hc) (hlies.parts.leaf c (List.mem_reverse.mpr hc))

/-- Nodes that were read from tokens in order are laid out. -/
theorem Row.laid {source : List Char} : ∀ {r r' : Reader} {ns : List Node}, Ordered source r →
    Row r r' ns → ∀ n ∈ ns, Laid source n
  | _, _, _, _, .nil _ => fun _ hn => absurd hn List.not_mem_nil
  | _, _, _, hr, .cons h₁ hs h =>
      have hr₁ := h₁.ordered hr
      List.forall_mem_cons.mpr ⟨Spans.laid hr₁ hs, Row.laid (hs.advance.ordered hr₁) h⟩

end

/-! ## Comments -/

/-- A comment is not empty, has no parts and stands for no token. -/
structure IsComment (c : Node) : Prop where
  /-- It stands for no token. -/
  inert : Inert c
  /-- It is not empty. -/
  lt : c.start < c.stop
  /-- It has no parts. -/
  leaf : c.children = []

/-- A comment lies before, behind or inside each node of a tree. -/
inductive Clear (c : Node) : Node → Prop
  | mk {n : Node} (here : c.stop ≤ n.start ∨ n.Before c ∨ n.surrounds c = true)
      (below : ∀ m ∈ n.children, Clear c m) : Clear c n

namespace Clear

variable {c n m : Node}

theorem here (h : Clear c n) : c.stop ≤ n.start ∨ n.Before c ∨ n.surrounds c = true := by
  cases h with
  | mk here below => exact here

theorem child (h : Clear c n) (hm : m ∈ n.children) : Clear c m := by
  cases h with
  | mk here below => exact below m hm

/-- A comment lies before or behind another one. -/
theorem of_comment {d : Node} (hd : IsComment d) (h : c.stop ≤ d.start ∨ d.stop ≤ c.start) :
    Clear c d := by
  refine .mk ?_ fun m hm => ?_
  · rcases h with h | h
    · exact .inl h
    · exact .inr (.inl ⟨Nat.le_trans (Nat.le_of_lt hd.lt) h, h⟩)
  · rw [hd.leaf] at hm
    exact absurd hm List.not_mem_nil

end Clear

/-- What a node surrounds lies inside it. -/
theorem Node.surrounds_iff {outer inner : Node} :
    outer.surrounds inner = true ↔ outer.start < inner.start ∧ inner.stop < outer.stop := by
  rw [surrounds, Bool.and_eq_true, decide_eq_true_eq, decide_eq_true_eq]

mutual

/-- A comment that overlaps no token lies before, behind or inside a node that was read. -/
theorem Spans.clear {source : List Char} {c : Node} (hc : c.start < c.stop) :
    ∀ {r r' : Reader} {n : Node}, Ordered source r →
      (∀ t ∈ r.rest, c.stop ≤ t.start ∨ t.stop ≤ c.start) → Spans r r' n → Clear c n
  | r, r', _, hr, hapart, @Spans.mk _ _ _ t _ _ _ starts opens row _ _ _ _ _ => by
      have ht := List.mem_of_mem_head? starts
      have hlies := (hr.tokens t ht).2
      refine .mk ?_ (Row.clear hc (opens.ordered hr) (fun u hu => hapart u (opens.subset hu)) row)
      rw [Node.surrounds_iff]
      show c.stop ≤ t.start ∨ (t.start ≤ c.start ∧ r'.last ≤ c.start)
        ∨ (t.start < c.start ∧ c.stop < r'.last)
      rcases hapart t ht with hbefore | hbehind
      · exact .inl hbefore
      -- behind the first token the comment is before or behind the last one
      · have hstart := hlies.lt
        rcases (opens.trans row.advance).exists_last with rfl | ⟨u, hu, hlast⟩
        · have hbehind' := (hr.tokens t ht).1
          exact .inr (.inl ⟨by omega, by omega⟩)
        · have hlies' := (hr.tokens u hu).2.lt
          rcases hapart u hu with hbefore | hbehind'
          · exact .inr (.inr ⟨by omega, by omega⟩)
          · exact .inr (.inl ⟨by omega, by omega⟩)
  | r, r', _, hr, hapart, @Spans.string _ _ t _ token _ parts => by
      have ht : t ∈ r.rest := token ▸ List.mem_cons_self
      have hlies := (hr.tokens t ht).2
      have hlt := hlies.lt
      -- the comment lies before or behind the whole token
      refine .mk ?_ fun m hm => .mk ?_ fun d hd => ?_
      · rcases hapart t ht with hbefore | hbehind
        · exact .inl hbefore
        · exact .inr (.inl ⟨Nat.le_trans (Nat.le_of_lt hlt) hbehind, hbehind⟩)
      · obtain ⟨hlo, hm', hhi⟩ := hlies.parts.within m (List.mem_reverse.mpr hm)
        rcases hapart t ht with hbefore | hbehind
        · exact .inl (by omega)
        · exact .inr (.inl ⟨by omega, by omega⟩)
      · rw [hlies.parts.leaf m (List.mem_reverse.mpr hm)] at hd
        exact absurd hd List.not_mem_nil

/-- A comment that overlaps no token lies before, behind or inside nodes that were read. -/
theorem Row.clear {source : List Char} {c : Node} (hc : c.start < c.stop) :
    ∀ {r r' : Reader} {ns : List Node}, Ordered source r →
      (∀ t ∈ r.rest, c.stop ≤ t.start ∨ t.stop ≤ c.start) → Row r r' ns → ∀ n ∈ ns, Clear c n
  | _, _, _, _, _, .nil _ => fun _ hn => absurd hn List.not_mem_nil
  | _, _, _, hr, hapart, .cons h₁ hs h => by
      have hr₁ := h₁.ordered hr
      have hapart₁ := fun u hu => hapart u (h₁.subset hu)
      refine List.forall_mem_cons.mpr ⟨Spans.clear hc hr₁ hapart₁ hs, ?_⟩
      exact Row.clear hc (hs.advance.ordered hr₁) (fun u hu => hapart₁ u (hs.advance.subset hu)) h

end

namespace Node

variable {c n m : Node} {ns : List Node}

theorem withComment_start : (withComment c n).start = n.start := by
  cases n
  rfl

theorem withComment_stop : (withComment c n).stop = n.stop := by
  cases n
  rfl

theorem withComment_kind : (withComment c n).kind = n.kind := congrArg Prod.fst (head_withComment c n)

theorem withComment_children : (withComment c n).children = placeComment c n.children := by
  cases n
  rfl

theorem withComment_text (source : List Char) : (withComment c n).text source = n.text source := by
  cases n
  rfl

/-- Among nodes with a comment put among them are the comment and the nodes, of which one may have
    taken it in. -/
theorem mem_placeComment (h : m ∈ placeComment c ns) :
    m = c ∨ m ∈ ns ∨ ∃ n ∈ ns, n.surrounds c = true ∧ m = withComment c n := by
  induction ns with
  | nil => exact .inl (List.mem_singleton.mp h)
  | cons n ns ih =>
      rw [placeComment] at h
      split at h
      · rename_i hsurrounds
        rcases List.mem_cons.mp h with rfl | h
        · exact .inr (.inr ⟨n, List.mem_cons_self, hsurrounds, rfl⟩)
        · exact .inr (.inl (List.mem_cons_of_mem _ h))
      · split at h
        · rcases List.mem_cons.mp h with rfl | h
          · exact .inl rfl
          · exact .inr (.inl h)
        · rcases List.mem_cons.mp h with rfl | h
          · exact .inr (.inl List.mem_cons_self)
          · rcases ih h with rfl | h | ⟨k, hk, hsurrounds, rfl⟩
            · exact .inl rfl
            · exact .inr (.inl (List.mem_cons_of_mem _ h))
            · exact .inr (.inr ⟨k, List.mem_cons_of_mem _ hk, hsurrounds, rfl⟩)

/-- What holds of where the nodes lie and of where the comment lies holds after it is put in. -/
theorem forall_placeComment {P : Nat → Nat → Prop} (hc : P c.start c.stop)
    (hns : ∀ n ∈ ns, P n.start n.stop) : ∀ m ∈ placeComment c ns, P m.start m.stop := by
  intro m hm
  rcases mem_placeComment hm with rfl | hm | ⟨n, hn, -, rfl⟩
  · exact hc
  · exact hns m hm
  · rw [withComment_start, withComment_stop]
    exact hns n hn

/-- A comment is put between the nodes where it lies. -/
theorem sorted_placeComment (hlt : c.start < c.stop)
    (hclear : ∀ n ∈ ns, c.stop ≤ n.start ∨ n.Before c ∨ n.surrounds c = true)
    (h : ns.Pairwise Before) : (placeComment c ns).Pairwise Before := by
  induction ns with
  | nil => exact List.pairwise_singleton _ _
  | cons n ns ih =>
      obtain ⟨hn, hns⟩ := List.pairwise_cons.mp h
      obtain ⟨hclear, hclears⟩ := List.forall_mem_cons.mp hclear
      rw [placeComment]
      split
      · refine List.pairwise_cons.mpr ⟨fun m hm => ?_, hns⟩
        rw [Before, withComment_start, withComment_stop]
        exact hn m hm
      · rename_i hsurrounds
        split
        · rename_i hbefore
          refine List.pairwise_cons.mpr ⟨List.forall_mem_cons.mpr ⟨?_, fun m hm => ?_⟩, h⟩
          · exact ⟨by omega, hbefore⟩
          · have hle := (hn m hm).1
            exact ⟨by omega, by omega⟩
        · rename_i hbefore
          have hbehind : n.Before c := (hclear.resolve_left hbefore).resolve_right hsurrounds
          refine List.pairwise_cons.mpr ⟨?_, ih hclears hns⟩
          exact forall_placeComment (P := fun start _ => n.start ≤ start ∧ n.stop ≤ start)
            hbehind hn

end Node

/-- A comment can be put into a node around it, and the node stays laid out. -/
theorem Settled.withComment {source : List Char} {c n : Node} (hc : IsComment c)
    (h : Settled source n) (hclear : Clear c n) (hsurrounds : n.surrounds c = true) :
    Settled source (Node.withComment c n) := by
  obtain ⟨hstart, hstop⟩ := Node.surrounds_iff.mp hsurrounds
  constructor
  · rw [Node.withComment_children, Node.withComment_start, Node.withComment_stop]
    exact Node.forall_placeComment (P := fun start stop => n.start ≤ start ∧ stop ≤ n.stop)
      ⟨Nat.le_of_lt hstart, Nat.le_of_lt hstop⟩ h.inside
  · rw [Node.withComment_children]
    exact Node.sorted_placeComment hc.lt (fun m hm => (hclear.child hm).here) h.sorted
  · rw [Node.withComment_kind, Node.withComment_text]
    exact h.word
  · rw [Node.withComment_kind, Node.withComment_children, Node.withComment_start,
      Node.withComment_stop]
    intro hbody
    refine ⟨(h.opened hbody).1, ?_⟩
    exact Node.forall_placeComment (P := fun start _ => n.start < start) hstart (h.opened hbody).2
  · rw [Node.withComment_kind, Node.withComment_children]
    intro hn
    exact Inert.placeComment hc.inert (h.bare hn)

mutual

/-- A comment can be put into a tree around it, and the tree stays laid out. -/
theorem Laid.withComment {source : List Char} {c : Node} (hc : IsComment c) :
    ∀ {n : Node}, Laid source n → Clear c n → n.surrounds c = true →
      Laid source (Node.withComment c n)
  | .mk _ _ _ _ _, h, hclear, hsurrounds =>
      .mk (h.here.withComment hc hclear hsurrounds)
        (Laid.placeComment hc (fun _ hm => h.child hm) fun _ hm => hclear.child hm)

/-- A comment can be put among trees, and they stay laid out. -/
theorem Laid.placeComment {source : List Char} {c : Node} (hc : IsComment c) :
    ∀ {ns : List Node}, (∀ n ∈ ns, Laid source n) → (∀ n ∈ ns, Clear c n) →
      ∀ n ∈ Node.placeComment c ns, Laid source n
  | [], _, _ => List.forall_mem_singleton.mpr (.of_leaf hc.inert hc.leaf)
  | n :: ns, h, hclear => by
      obtain ⟨hn, hns⟩ := List.forall_mem_cons.mp h
      obtain ⟨hclearn, hclears⟩ := List.forall_mem_cons.mp hclear
      rw [Node.placeComment]
      split
      · exact List.forall_mem_cons.mpr ⟨Laid.withComment hc hn hclearn ‹_›, hns⟩
      · split
        · exact List.forall_mem_cons.mpr ⟨.of_leaf hc.inert hc.leaf, h⟩
        · exact List.forall_mem_cons.mpr ⟨hn, Laid.placeComment hc hns hclears⟩

end

mutual

/-- A comment put into a tree is in no other comment's way. -/
theorem Clear.withComment {c d : Node} (hd : Clear c d) :
    ∀ {n : Node}, Clear c n → Clear c (Node.withComment d n)
  | .mk _ _ _ _ _, h => .mk h.here (Clear.placeComment hd fun _ hm => h.child hm)

/-- A comment put among trees is in no other comment's way. -/
theorem Clear.placeComment {c d : Node} (hd : Clear c d) :
    ∀ {ns : List Node}, (∀ n ∈ ns, Clear c n) → ∀ n ∈ Node.placeComment d ns, Clear c n
  | [], _ => List.forall_mem_singleton.mpr hd
  | n :: ns, h => by
      obtain ⟨hn, hns⟩ := List.forall_mem_cons.mp h
      rw [Node.placeComment]
      split
      · exact List.forall_mem_cons.mpr ⟨Clear.withComment hd hn, hns⟩
      · split
        · exact List.forall_mem_cons.mpr ⟨hd, h⟩
        · exact List.forall_mem_cons.mpr ⟨hn, Clear.placeComment hd hns⟩

end

/-! ## Files -/

/-- Nodes lie in a text one behind the other. -/
structure LaidOut (source : List Char) (ns : List Node) : Prop where
  /-- They are laid out themselves. -/
  laid : ∀ n ∈ ns, Laid source n
  /-- They lie one behind the other. -/
  sorted : ns.Pairwise Node.Before
  /-- They end in the text. -/
  stop_le : ∀ n ∈ ns, n.stop ≤ Text.byteLength source

namespace LaidOut

variable {source : List Char} {ns comments : List Node}

theorem nil : LaidOut source [] :=
  ⟨fun _ hn => absurd hn List.not_mem_nil, .nil, fun _ hn => absurd hn List.not_mem_nil⟩

/-- Comments that lie one behind the other may be put among nodes, each where it lies; by induction
    on the comments. -/
theorem placeComments (hc : ∀ c ∈ comments, IsComment c ∧ c.stop ≤ Text.byteLength source)
    (hsorted : comments.Pairwise fun c d => c.stop ≤ d.start) :
    ∀ {ns : List Node}, (∀ c ∈ comments, ∀ n ∈ ns, Clear c n) → LaidOut source ns →
      LaidOut source (comments.foldl (fun ns c => Node.placeComment c ns) ns) := by
  induction comments with
  | nil => exact fun _ h => h
  | cons c cs ih =>
      intro ns hclear h
      obtain ⟨⟨hcomment, hstop⟩, hcs⟩ := List.forall_mem_cons.mp hc
      obtain ⟨hbefore, hrest⟩ := List.pairwise_cons.mp hsorted
      obtain ⟨hclearc, hclears⟩ := List.forall_mem_cons.mp hclear
      refine ih hcs hrest (fun d hd => ?_) ⟨?_, ?_, ?_⟩
      · exact Clear.placeComment (.of_comment hcomment (.inr (hbefore d hd))) (hclears d hd)
      · exact Laid.placeComment hcomment h.laid hclearc
      · exact Node.sorted_placeComment hcomment.lt (fun n hn => (hclearc n hn).here) h.sorted
      · exact Node.forall_placeComment (P := fun _ stop => stop ≤ Text.byteLength source) hstop
          h.stop_le

/-- The node over nodes that lie in a text is laid out. -/
theorem program (h : LaidOut source ns)
    (hc : ∀ c ∈ comments, IsComment c ∧ c.stop ≤ Text.byteLength source)
    (hsorted : comments.Pairwise fun c d => c.stop ≤ d.start)
    (hclear : ∀ c ∈ comments, ∀ n ∈ ns, Clear c n) :
    Laid source (Java.program (Text.byteLength source) ns comments) := by
  have hall := placeComments hc hsorted hclear h
  exact .mk ⟨fun n hn => ⟨Nat.zero_le _, hall.stop_le n hn⟩, hall.sorted, nofun, nofun, nofun⟩ hall.laid

end LaidOut

/-- **The tree of every text is laid out in it.** -/
theorem laid_of_parse? {text : String} {root : Node} (h : parse? text = some root) :
    Laid text.toList root := by
  obtain ⟨lexed, hlex, h⟩ := Option.bind_eq_some_iff.mp h
  obtain ⟨ns, hread, h⟩ := Option.bind_eq_some_iff.mp h
  obtain rfl := Option.some.inj h
  have hquiet := Lexer.quiet_of_lex? hlex
  have horder := Lexer.inOrder_of_lex? hlex
  obtain ⟨last, hpart⟩ := Grammar.part_of_readAll? hquiet hread
  have hordered : Ordered text.toList ⟨lexed.tokens, 0⟩ := ⟨horder.tokens, horder.sorted⟩
  have hstop : last ≤ Text.byteLength text.toList := by
    rcases hpart.advance.exists_last with heq | ⟨t, ht, hlast⟩
    · obtain rfl : 0 = last := congrArg Reader.last heq
      exact Nat.zero_le _
    · obtain rfl : last = t.stop := hlast
      exact (horder.tokens t ht).2.stop_le
  have hout : LaidOut text.toList ns :=
    ⟨hpart.row.laid hordered, hpart.row.sorted hordered,
      fun n hn => Nat.le_trans (hpart.row.within hordered hn).2 hstop⟩
  refine hout.program (fun c hc => ?_) horder.comments_sorted fun c hc => ?_
  · obtain ⟨-, hlt, hle, hleaf⟩ := horder.comments c hc
    exact ⟨⟨hquiet.comments c hc, hlt, hleaf⟩, hle⟩
  · exact hpart.row.clear (horder.comments c hc).2.1 hordered fun t ht => horder.apart t ht c hc

end BeanMapper.Java
