import BeanMapper.Java.Parser
import BeanMapper.Proofs.Java.Shape

/-! # Spans — the tokens that a node was read from

    A node stands for what was read between two states of a reader:

    * `Advance` says that one state is reached from another by reading tokens;
    * `Spans` and `Row` say that a node, or nodes one behind the other, were
      read between two states, each node with parts that fit it; a string is
      read as a single token and keeps the parts of that token;
    * `Part` adds what the nodes may be for a node above them, and is what the
      rules of the grammar are shown to give (`Part.append`, `Part.fills`);
    * `Spans.shaped` forgets the tokens again. -/

namespace BeanMapper.Java

/-- One state of a reader is reached from another by reading tokens. -/
inductive Advance : Reader → Reader → Prop
  | refl (r : Reader) : Advance r r
  | token {t : Token} {rest : List Token} {last : Nat} {r : Reader} (h : Advance ⟨rest, t.stop⟩ r) :
      Advance ⟨t :: rest, last⟩ r

namespace Advance

variable {r₁ r₂ r₃ : Reader}

theorem trans (h₁ : Advance r₁ r₂) (h₂ : Advance r₂ r₃) : Advance r₁ r₃ := by
  induction h₁ with
  | refl r => exact h₂
  | token h ih => exact .token (ih h₂)

/-- What is still to be read was to be read before. -/
theorem subset (h : Advance r₁ r₂) {t : Token} (ht : t ∈ r₂.rest) : t ∈ r₁.rest := by
  induction h with
  | refl r => exact ht
  | token h ih => exact List.mem_cons_of_mem _ (ih ht)

end Advance

/-- Between two states of a reader one word was read. -/
def OneWord (r r' : Reader) : Prop :=
  ∃ t, t.shape = .word ∧ r.rest = t :: r'.rest ∧ r'.last = t.stop

mutual

/-- A node was read between two states of a reader. -/
inductive Spans : Reader → Reader → Node → Prop
  | mk {r r₁ r' : Reader} {t : Token} {kind : Kind} {role : Role} {children : List Node}
      (starts : r.rest.head? = some t) (opens : Advance r r₁) (row : Row r₁ r' children)
      (hkind : kind.isInert = false) (fits : Fits kind (Node.heads children))
      (opened : kind.isTypeBody = true → r₁.rest.length < r.rest.length)
      (word : kind = .identifier → OneWord r r')
      (bare : kind.isNamed = false → children = []) :
      Spans r r' (.mk kind role t.start r'.last children)
  | string {r r' : Reader} {t : Token} {role : Role} (token : r.rest = t :: r'.rest)
      (last : r'.last = t.stop) (parts : ∀ n ∈ t.parts, Inert n) :
      Spans r r' (.mk .stringLiteral role t.start t.stop t.parts)

/-- Nodes were read one behind the other between two states of a reader, maybe with tokens in
    between. -/
inductive Row : Reader → Reader → List Node → Prop
  | nil {r r' : Reader} (h : Advance r r') : Row r r' []
  | cons {r r₁ r₂ r' : Reader} {n : Node} {ns : List Node} (h₁ : Advance r r₁)
      (hn : Spans r₁ r₂ n) (h : Row r₂ r' ns) : Row r r' (n :: ns)

end

variable {r r₁ r₂ r₃ r' : Reader} {n : Node} {ns ms : List Node}

/-- A token that is read off the front leads on. -/
theorem Advance.of_token {t : Token} (hrest : r.rest = t :: r'.rest) (hlast : r'.last = t.stop) :
    Advance r r' := by
  obtain ⟨rest, last⟩ := r
  obtain ⟨rest', last'⟩ := r'
  obtain rfl : rest = t :: rest' := hrest
  obtain rfl : last' = t.stop := hlast
  exact .token (.refl _)

mutual

/-- What was read between two states leads from the first to the second. -/
theorem Spans.advance : ∀ {r r' : Reader} {n : Node}, Spans r r' n → Advance r r'
  | _, _, _, .mk _ opens row _ _ _ _ _ => opens.trans row.advance
  | _, _, _, .string token last _ => .of_token token last

/-- What was read between two states leads from the first to the second. -/
theorem Row.advance : ∀ {r r' : Reader} {ns : List Node}, Row r r' ns → Advance r r'
  | _, _, _, .nil h => h
  | _, _, _, .cons h₁ hn h => h₁.trans (hn.advance.trans h.advance)

end

mutual

/-- A node that was read is shaped. -/
theorem Spans.shaped : ∀ {r r' : Reader} {n : Node}, Spans r r' n → Shaped n
  | _, _, _, .mk _ _ row hkind fits _ _ _ => .mk hkind fits row.shaped
  | _, _, _, .string _ _ parts =>
      .mk rfl (.of_free rfl fun _ hx => by
        rw [Node.heads_eq_nil parts] at hx
        exact absurd hx List.not_mem_nil) fun n hn => .inert (parts n hn)

/-- Nodes that were read are shaped. -/
theorem Row.shaped : ∀ {r r' : Reader} {ns : List Node}, Row r r' ns → ∀ n ∈ ns, Shaped n
  | _, _, _, .nil _ => fun _ hn => absurd hn List.not_mem_nil
  | _, _, _, .cons _ hs h => List.forall_mem_cons.mpr ⟨hs.shaped, h.shaped⟩

end

namespace Spans

/-- The role of a node does not matter for where it was read. -/
theorem inRole (h : Spans r r' n) (role : Role) : Spans r r' (n.inRole role) := by
  cases h with
  | mk starts opens row hkind fits opened word bare =>
      exact .mk starts opens row hkind fits opened word bare
  | string token last parts => exact .string token last parts

/-- A node starts where the token does that is read first. -/
theorem starts (h : Spans r r' n) : ∃ t, r.rest.head? = some t ∧ n.start = t.start := by
  cases h with
  | mk starts opens row hkind fits opened word bare => exact ⟨_, starts, rfl⟩
  | string token last parts => exact ⟨_, by rw [token]; rfl, rfl⟩

/-- A node ends where the token does that was read last. -/
theorem stop_eq (h : Spans r r' n) : n.stop = r'.last := by
  cases h with
  | mk starts opens row hkind fits opened word bare => rfl
  | string token last parts => exact last.symm

theorem single (h : Spans r r' n) : Row r r' [n] := .cons (.refl r) h (.nil (.refl r'))

end Spans

namespace Row

/-- Tokens may be passed over in front of a row. -/
theorem skip (h₁ : Advance r r₁) (h : Row r₁ r' ns) : Row r r' ns := by
  induction ns generalizing r r₁ with
  | nil =>
      exact .nil (h₁.trans h.advance)
  | cons n ns ih =>
      cases h with
      | cons h₂ hn h => exact .cons (h₁.trans h₂) hn h

/-- Two rows one behind the other are one row. -/
theorem append (h₁ : Row r r₁ ns) (h₂ : Row r₁ r' ms) : Row r r' (ns ++ ms) := by
  induction ns generalizing r with
  | nil => exact h₂.skip h₁.advance
  | cons n ns ih =>
      cases h₁ with
      | cons h hn h' => exact .cons h hn (ih h')

/-- A single node of a row was itself read within it. -/
theorem single (h : Row r r' [n]) : ∃ r₁ r₂, Advance r r₁ ∧ Spans r₁ r₂ n ∧ Advance r₂ r' := by
  cases h with
  | cons h₁ hs h => exact ⟨_, _, h₁, hs, h.advance⟩

end Row

/-! ## Parts of a node to be -/

/-- Any head at all. -/
def AnyHead : Head → Prop := fun _ => True

/-- The heads in a role. -/
def InRole (role : Role) : Head → Prop := fun h => h.2 = role

/-- The head of a kind in a role. -/
def IsHead (kind : Kind) (role : Role) : Head → Prop := fun h => h = (kind, role)

/-- Among some nodes is one in a role. -/
def Has (role : Role) (ns : List Node) : Prop := ∃ n ∈ ns, n.role = role

/-- A node that is put into a role is one in that role. -/
theorem Has.inRole (n : Node) (role : Role) : Has role [n.inRole role] :=
  ⟨n.inRole role, List.mem_cons_self, Node.inRole_role n role⟩

theorem Has.left {role : Role} (h : Has role ns) (ms : List Node) : Has role (ns ++ ms) := by
  obtain ⟨n, hn, hrole⟩ := h
  exact ⟨n, List.mem_append_left ms hn, hrole⟩

theorem Has.right {role : Role} (h : Has role ms) (ns : List Node) : Has role (ns ++ ms) := by
  obtain ⟨n, hn, hrole⟩ := h
  exact ⟨n, List.mem_append_right ns hn, hrole⟩

/-- Nodes that were read between two states of a reader and may stand anywhere, with heads of a
    certain form. -/
structure Part (ρ : Head → Prop) (r r' : Reader) (ns : List Node) : Prop where
  /-- They were read there. -/
  row : Row r r' ns
  /-- They may stand anywhere. -/
  free : ∀ n ∈ ns, n.kind.isFree = true
  /-- Their heads are of that form. -/
  form : ∀ n ∈ ns, ρ n.head

namespace Part

variable {ρ σ : Head → Prop}

theorem mono (h : Part ρ r r' ns) (hρ : ∀ x, ρ x → σ x) : Part σ r r' ns :=
  ⟨h.row, h.free, fun n hn => hρ _ (h.form n hn)⟩

theorem any (h : Part ρ r r' ns) : Part AnyHead r r' ns := h.mono fun _ _ => trivial

/-- Where no node is, tokens may be passed over. -/
theorem nil (h : Advance r r') : Part ρ r r' [] :=
  ⟨.nil h, fun _ hn => absurd hn List.not_mem_nil, fun _ hn => absurd hn List.not_mem_nil⟩

theorem skip (h₁ : Advance r r₁) (h : Part ρ r₁ r' ns) : Part ρ r r' ns :=
  ⟨h.row.skip h₁, h.free, h.form⟩

theorem append (h₁ : Part ρ r r₁ ns) (h₂ : Part ρ r₁ r' ms) : Part ρ r r' (ns ++ ms) where
  row := h₁.row.append h₂.row
  free := List.forall_mem_append.mpr ⟨h₁.free, h₂.free⟩
  form := List.forall_mem_append.mpr ⟨h₁.form, h₂.form⟩

/-- Parts of any form one behind the other. -/
theorem join (h₁ : Part ρ r r₁ ns) (h₂ : Part σ r₁ r' ms) : Part AnyHead r r' (ns ++ ms) :=
  h₁.any.append h₂.any

/-- Tokens may be passed over at the end. -/
theorem stop (h : Part ρ r r₁ ns) (h₁ : Advance r₁ r') : Part ρ r r' ns := by
  have := h.append (.nil h₁)
  rwa [List.append_nil] at this

theorem advance (h : Part ρ r r' ns) : Advance r r' := h.row.advance

/-- A single node may be put into a role. -/
theorem inRole (h : Part ρ r r' [n]) (role : Role) : Part (InRole role) r r' [n.inRole role] where
  row := by
    obtain ⟨r₁, r₂, h₁, hs, h₂⟩ := h.row.single
    exact .cons h₁ (hs.inRole role) (.nil h₂)
  free := by
    intro m hm
    obtain rfl := List.mem_singleton.mp hm
    rw [Node.inRole_kind]
    exact h.free n (List.mem_singleton_self n)
  form := by
    intro m hm
    obtain rfl := List.mem_singleton.mp hm
    exact Node.inRole_role n role

/-- The heads of parts are those of its nodes. -/
theorem forall_heads (h : Part ρ r r' ns) : ∀ x ∈ Node.heads ns, x.1.isFree = true ∧ ρ x := by
  intro x hx
  obtain ⟨n, hn, -, rfl⟩ := Node.mem_heads_iff.mp hx
  exact ⟨h.free n hn, h.form n hn⟩

/-- A part in a role is a head in that role. -/
theorem exists_head {role : Role} (h : Part ρ r r' ns) (hn : Has role ns) :
    ∃ x ∈ Node.heads ns, x.2 = role := by
  obtain ⟨n, hmem, hrole⟩ := hn
  exact ⟨n.head, Node.head_mem_heads hmem (Kind.isFree_iff.mp (h.free n hmem)).2.2, hrole⟩

end Part

/-! ## Parts that make up a node -/

/-- Nodes that make up a node of a kind that is read between two states of a reader. -/
structure Fills (kind : Kind) (r r' : Reader) (ns : List Node) : Prop where
  /-- They were read there, those of a body of a type behind its first token. -/
  row : ∃ r₁, Advance r r₁ ∧ Row r₁ r' ns
    ∧ (kind.isTypeBody = true → r₁.rest.length < r.rest.length)
  /-- The node stands for a token. -/
  stands : kind.isInert = false
  /-- They fit it. -/
  fits : Fits kind (Node.heads ns)
  /-- An identifier is a single word. -/
  word : kind = .identifier → OneWord r r'
  /-- A keyword has no parts. -/
  bare : kind.isNamed = false → ns = []

/-- What makes up a node makes it up. -/
theorem Fills.spans {kind : Kind} (h : Fills kind r r' ns) {t : Token} (ht : r.rest.head? = some t)
    (role : Role) : Spans r r' (.mk kind role t.start r'.last ns) := by
  obtain ⟨r₁, hopens, hrow, hopened⟩ := h.row
  exact .mk ht hopens hrow h.stands h.fits hopened h.word h.bare

/-- Nodes that fit a node make it up, unless it is a body of a type or a word. -/
theorem Fills.of_row {kind : Kind} (hrow : Row r r' ns) (hfits : Fits kind (Node.heads ns))
    (hfree : kind.isFree = true) (hlexical : kind.isLexical = false) : Fills kind r r' ns := by
  obtain ⟨hbody, -, hinert⟩ := Kind.isFree_iff.mp hfree
  obtain ⟨hword, hnamed⟩ := Kind.isLexical_eq_false_iff.mp hlexical
  refine ⟨⟨r, .refl r, hrow, ?_⟩, hinert, hfits, fun hi => absurd hi hword, ?_⟩
  · intro hb
    exact absurd hb (by simp [hbody])
  · intro hn
    exact absurd hn (by simp [hnamed])

/-- Tokens alone make up a node without parts, unless it is a word. -/
theorem Fills.of_advance {kind : Kind} (h : Advance r r') (hfree : kind.isFree = true)
    (hopen : kind.isOpen = true) (hword : kind ≠ .identifier) : Fills kind r r' [] where
  row := ⟨r, .refl r, .nil h, fun hb => by simp [(Kind.isFree_iff.mp hfree).1] at hb⟩
  stands := (Kind.isFree_iff.mp hfree).2.2
  fits := .of_free hopen fun _ hx => absurd hx List.not_mem_nil
  word hi := absurd hi hword
  bare _ := rfl

/-- Any parts make up a node of which nothing is asked. -/
theorem Part.fills {kind : Kind} {ρ : Head → Prop} (h : Part ρ r r' ns)
    (hkind : kind.isOrdinary = true) : Fills kind r r' ns := by
  obtain ⟨hfree, hopen, hlexical⟩ := Kind.isOrdinary_iff.mp hkind
  exact .of_row h.row (.of_free hopen fun x hx => (h.forall_heads x hx).1) hfree hlexical

end BeanMapper.Java
