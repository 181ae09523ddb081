import BeanMapper.Java.Extract

/-! # Shape — what stands below a node

    Names and declarations are read off a tree by the kinds and roles of its
    nodes.  What this rests on is said once, for the kind of a node and the
    heads of its parts:

    * `Fits` says which parts a node of a kind may and must have;
    * `Shaped` says it of every node of a tree;
    * `Shaped.body_eq` reads off that a body of a type stands where the members
      of that type are looked for, and `Shaped.name_of_bearsName` that what has
      a name has a word for it. -/

namespace BeanMapper.Java

namespace Kind

/-- Whether nodes of a kind stand for no token of their own: comments and the parts of strings. -/
def isInert : Kind → Bool
  | lineComment => true
  | blockComment => true
  | stringFragment => true
  | escapeSequence => true
  | _ => false

/-- Whether nodes of a kind may stand below any other one. -/
def isFree (kind : Kind) : Bool :=
  !kind.isTypeBody && kind != enumBodyDeclarations && !kind.isInert

/-- Whether nodes of a kind have a name but no members of their own. -/
def isMember (kind : Kind) : Bool :=
  kind.isMethod || [variableDeclarator, formalParameter].contains kind

/-- Whether nodes of a kind have a name that is a single word. -/
def bearsName (kind : Kind) : Bool := kind.declaresType || kind.isMember || kind == enumConstant

/-- Whether nodes of a kind declare fields. -/
def declaresFields (kind : Kind) : Bool := [fieldDeclaration, constantDeclaration].contains kind

/-- Whether nothing is asked of the parts of nodes of a kind but that they may stand anywhere. -/
def isOpen (kind : Kind) : Bool := !kind.bearsName && !kind.declaresFields

/-- Whether nodes of a kind are words without parts: identifiers and the keywords of modifiers. -/
def isLexical (kind : Kind) : Bool := kind == identifier || !kind.isNamed

/-- Whether nothing is asked of nodes of a kind, neither of their parts nor of their places. -/
def isOrdinary (kind : Kind) : Bool := kind.isFree && kind.isOpen && !kind.isLexical

variable {kind : Kind}

theorem isFree_iff : kind.isFree = true ↔
    kind.isTypeBody = false ∧ kind ≠ enumBodyDeclarations ∧ kind.isInert = false := by
  simp [isFree, and_assoc]

theorem isInert_eq_false_of_isTypeBody (h : kind.isTypeBody = true) : kind.isInert = false := by
  cases kind <;> first | rfl | exact absurd h (by decide)

theorem isInert_eq_false_of_isMethod (h : kind.isMethod = true) : kind.isInert = false := by
  cases kind <;> first | rfl | exact absurd h (by decide)

theorem isNamed_of_isTypeBody (h : kind.isTypeBody = true) : kind.isNamed = true := by
  cases kind <;> first | rfl | exact absurd h (by decide)

theorem isNamed_of_isMethod (h : kind.isMethod = true) : kind.isNamed = true := by
  cases kind <;> first | rfl | exact absurd h (by decide)

theorem isOpen_iff :
    kind.isOpen = true ↔ kind.bearsName = false ∧ kind.declaresFields = false := by
  simp [isOpen]

/-- A kind is no lexical one if it is named and not that of identifiers. -/
theorem isLexical_eq_false_iff :
    kind.isLexical = false ↔ kind ≠ identifier ∧ kind.isNamed = true := by
  simp [isLexical]

/-- Nothing is asked of a kind if its nodes stand anywhere, have any parts and are no words. -/
theorem isOrdinary_iff :
    kind.isOrdinary = true ↔
      kind.isFree = true ∧ kind.isOpen = true ∧ kind.isLexical = false := by
  simp [isOrdinary, and_assoc]

theorem isMember_iff : kind.isMember = true ↔
    kind = methodDeclaration ∨ kind = constructorDeclaration ∨ kind = compactConstructorDeclaration
      ∨ kind = variableDeclarator ∨ kind = formalParameter := by
  cases kind <;> simp [isMember, isMethod]

/-- A declaration of a type bears its name. -/
theorem bearsName_of_declaresType (h : kind.declaresType = true) : kind.bearsName = true := by
  simp [bearsName, h]

/-- A node of whose parts nothing is asked declares no type. -/
theorem declaresType_eq_false_of_isOpen (h : kind.isOpen = true) : kind.declaresType = false := by
  cases hd : kind.declaresType with
  | false => rfl
  | true =>
      rw [isOpen_iff, bearsName_of_declaresType hd] at h
      exact absurd h.1 (by decide)

end Kind

/-- The kind and the role of a node. -/
abbrev Head : Type := Kind × Role

namespace Node

/-- The kind and the role of a node. -/
def head (n : Node) : Head := (n.kind, n.role)

/-- The heads of the nodes that stand for tokens. -/
def heads (ns : List Node) : List Head := (ns.filter (!·.kind.isInert)).map head

@[simp] theorem inRole_kind (n : Node) (role : Role) : (n.inRole role).kind = n.kind := by
  cases n
  rfl

@[simp] theorem inRole_role (n : Node) (role : Role) : (n.inRole role).role = role := by
  cases n
  rfl

theorem heads_append (ns ms : List Node) : heads (ns ++ ms) = heads ns ++ heads ms := by
  rw [heads, List.filter_append, List.map_append]
  rfl

/-- The heads are those of the nodes that are not inert. -/
theorem mem_heads_iff {ns : List Node} {h : Head} :
    h ∈ heads ns ↔ ∃ n ∈ ns, n.kind.isInert = false ∧ n.head = h := by
  simp only [heads, List.mem_map, List.mem_filter, Bool.not_eq_true', and_assoc]

/-- A node of a kind that is not inert has its head among the heads. -/
theorem head_mem_heads {ns : List Node} {n : Node} (hn : n ∈ ns) (hk : n.kind.isInert = false) :
    n.head ∈ heads ns :=
  mem_heads_iff.mpr ⟨n, hn, hk, rfl⟩

/-- Where a part has a role, a part in that role is found. -/
theorem exists_child? {n : Node} {role : Role} (h : ∃ x ∈ heads n.children, x.2 = role) :
    ∃ c ∈ n.children, n.child? role = some c ∧ c.role = role := by
  obtain ⟨x, hx, rfl⟩ := h
  obtain ⟨c, hc, -, rfl⟩ := mem_heads_iff.mp hx
  have hsome : (n.child? c.role).isSome := by
    rw [child?, List.find?_isSome]
    exact ⟨c, hc, beq_self_eq_true _⟩
  obtain ⟨d, hd⟩ := Option.isSome_iff_exists.mp hsome
  have hrole : d.role = c.role := by simpa using List.find?_some hd
  exact ⟨d, List.mem_of_find?_eq_some hd, hd, hrole⟩

end Node

/-- The heads that are no names but single words, and no types but those without annotations in
    front. -/
def Worded : Head → Prop := fun x =>
  (x.2 = .name → x.1 = .identifier) ∧ (x.2 = .type → x.1 ≠ .annotatedType)

/-! ## The parts of a node -/

/-- Where bodies of types may stand among the parts of a node of a kind. -/
structure Bodied (kind : Kind) (hs : List Head) : Prop where
  /-- A body of a type stands in a declaration or in what may hold a type without a name. -/
  place : ∀ h ∈ hs, h.1.isTypeBody = true →
    (kind.declaresType = true ∧ h.2 = .body)
      ∨ (kind.ownsAnonymousBody = true ∧ h.1 = .classBody ∧ (kind = .enumConstant → h.2 = .body))
  /-- There is one of them at most. -/
  unique : hs.countP (·.1.isTypeBody) ≤ 1
  /-- Declarations and constants have no other bodies. -/
  only : kind.declaresType = true ∨ kind = .enumConstant →
    ∀ h ∈ hs, h.2 = .body → h.1.isTypeBody = true
  /-- A declaration has a body. -/
  found : kind.declaresType = true → ∃ h ∈ hs, h.2 = .body
  /-- The members behind the constants of an enumeration stand in its body. -/
  late : ∀ h ∈ hs, h.1 = .enumBodyDeclarations → kind = .enumBody

/-- Which parts of a node of a kind are told apart by their roles. -/
structure Named (kind : Kind) (hs : List Head) : Prop where
  /-- What bears a name has one. -/
  found : kind.bearsName = true → ∃ h ∈ hs, h.2 = .name
  /-- A name is a single word. -/
  word : kind.bearsName = true → ∀ h ∈ hs, h.2 = .name → h.1 = .identifier
  /-- A method has a return type. -/
  type : kind = .methodDeclaration → ∃ h ∈ hs, h.2 = .type
  /-- No annotations stand in front of the return type of a method. -/
  bare : kind = .methodDeclaration → ∀ h ∈ hs, h.2 = .type → h.1 ≠ .annotatedType
  /-- A record has components. -/
  components : kind = .recordDeclaration → ∃ h ∈ hs, h.2 = .parameters
  /-- No other type has components. -/
  only : kind.declaresType = true → kind ≠ .recordDeclaration → ∀ h ∈ hs, h.2 ≠ .parameters
  /-- What declares fields declares variables. -/
  declarators : kind.declaresFields = true →
    ∀ h ∈ hs, h.2 = .declarator → h.1 = .variableDeclarator

/-- Whether nodes with the given heads may be the parts of a node of a kind. -/
structure Fits (kind : Kind) (hs : List Head) : Prop where
  /-- Bodies of types stand where they may. -/
  bodied : Bodied kind hs
  /-- The parts that are told apart by their roles are there. -/
  named : Named kind hs

section

variable {kind : Kind} {hs : List Head}

/-- Without bodies of types there is nothing to say of a node that declares no type. -/
theorem Bodied.of_none (hbody : ∀ h ∈ hs, h.1.isTypeBody = false)
    (hlate : ∀ h ∈ hs, h.1 = .enumBodyDeclarations → kind = .enumBody)
    (hkind : kind.declaresType = false)
    (hconstant : kind = .enumConstant → ∀ h ∈ hs, h.2 ≠ .body) : Bodied kind hs where
  place h hmem hb := absurd hb (by simp [hbody h hmem])
  unique := by
    rw [List.countP_eq_zero.mpr fun h hmem => by simp [hbody h hmem]]
    exact Nat.zero_le 1
  only := by
    rintro (h | h) x hmem hx
    · exact absurd h (by simp [hkind])
    · exact absurd hx (hconstant h x hmem)
  found h := absurd h (by simp [hkind])
  late := hlate

/-- One body of a type may stand behind parts that are none. -/
theorem Bodied.append_body {b : Kind} {x : Role} (hfree : ∀ h ∈ hs, h.1.isFree = true)
    (hroles : kind.declaresType = true ∨ kind = .enumConstant → ∀ h ∈ hs, h.2 ≠ .body)
    (hb : b.isTypeBody = true)
    (hplace : (kind.declaresType = true ∧ x = .body)
      ∨ (kind.ownsAnonymousBody = true ∧ b = .classBody ∧ (kind = .enumConstant → x = .body))) :
    Bodied kind (hs ++ [(b, x)]) where
  place := by
    intro h hmem hbody
    rcases List.mem_append.mp hmem with hmem | hmem
    · rw [(Kind.isFree_iff.mp (hfree h hmem)).1] at hbody
      exact absurd hbody (by decide)
    · obtain rfl := List.mem_singleton.mp hmem
      exact hplace
  unique := by
    have hnone : hs.countP (·.1.isTypeBody) = 0 := by
      refine List.countP_eq_zero.mpr ?_
      intro h hmem
      simp [(Kind.isFree_iff.mp (hfree h hmem)).1]
    rw [List.countP_append, hnone, Nat.zero_add]
    exact List.countP_le_length
  only := by
    intro hkind h hmem hx
    rcases List.mem_append.mp hmem with hmem | hmem
    · exact absurd hx (hroles hkind h hmem)
    · obtain rfl := List.mem_singleton.mp hmem
      exact hb
  found := by
    intro hkind
    refine ⟨(b, x), List.mem_append_right _ (List.mem_singleton_self _), ?_⟩
    rcases hplace with ⟨-, hx⟩ | ⟨howns, -, -⟩
    · exact hx
    · cases kind <;> simp [Kind.declaresType, Kind.ownsAnonymousBody] at hkind howns
  late := by
    intro h hmem hlate
    rcases List.mem_append.mp hmem with hmem | hmem
    · exact absurd hlate (Kind.isFree_iff.mp (hfree h hmem)).2.1
    · obtain rfl := List.mem_singleton.mp hmem
      obtain rfl : b = .enumBodyDeclarations := hlate
      exact absurd hb (by decide)

/-- Nothing is told apart by its role where nothing bears a name or declares fields. -/
theorem Named.of_open (h : kind.isOpen = true) : Named kind hs := by
  obtain ⟨hname, hfields⟩ := Kind.isOpen_iff.mp h
  constructor
  · intro hn
    exact absurd hn (by simp [hname])
  · intro hn
    exact absurd hn (by simp [hname])
  · rintro rfl
    exact absurd hname (by decide)
  · rintro rfl
    exact absurd hname (by decide)
  · rintro rfl
    exact absurd hname (by decide)
  · intro hd
    exact absurd (Kind.bearsName_of_declaresType hd) (by simp [hname])
  · intro hd
    exact absurd hd (by simp [hfields])

/-- Names that are single words are all that is told apart where no fields are declared. -/
theorem Named.of_words (hfound : ∃ x ∈ hs, x.2 = .name) (hword : ∀ x ∈ hs, Worded x)
    (htype : kind = .methodDeclaration → ∃ x ∈ hs, x.2 = .type)
    (hcomponents : kind = .recordDeclaration → ∃ x ∈ hs, x.2 = .parameters)
    (honly : kind.declaresType = true → kind ≠ .recordDeclaration → ∀ x ∈ hs, x.2 ≠ .parameters)
    (hfields : kind.declaresFields = false) : Named kind hs where
  found _ := hfound
  word _ x hx := (hword x hx).1
  type := htype
  bare _ x hx := (hword x hx).2
  components := hcomponents
  only := honly
  declarators h := absurd h (by simp [hfields])

/-- Parts that may stand anywhere make up a node of which nothing else is asked. -/
theorem Fits.of_free (hopen : kind.isOpen = true) (hfree : ∀ h ∈ hs, h.1.isFree = true) :
    Fits kind hs := by
  refine ⟨Bodied.of_none ?_ ?_ ?_ ?_, Named.of_open hopen⟩
  · intro h hmem
    exact (Kind.isFree_iff.mp (hfree h hmem)).1
  · intro h hmem hlate
    exact absurd hlate (Kind.isFree_iff.mp (hfree h hmem)).2.1
  · exact Kind.declaresType_eq_false_of_isOpen hopen
  · rintro rfl
    exact absurd hopen (by decide)

end

/-! ## The nodes of a tree -/

/-- A node that stands for no token has no role, and nothing below it stands for a token. -/
inductive Inert : Node → Prop
  | mk {kind : Kind} {start stop : Nat} {children : List Node} (hkind : kind.isInert = true)
      (below : ∀ c ∈ children, Inert c) : Inert (.mk kind .none start stop children)

namespace Inert

variable {n : Node}

/-- A piece of a string is of a kind for such pieces. -/
theorem kind (h : Inert n) : n.kind.isInert = true := by
  cases h with
  | mk hkind below => exact hkind

/-- A piece of a string has no role. -/
theorem role (h : Inert n) : n.role = .none := by
  cases h with
  | mk hkind below => rfl

/-- The parts of such a piece are pieces as well. -/
theorem child (h : Inert n) {c : Node} (hc : c ∈ n.children) : Inert c := by
  cases h with
  | mk hkind below => exact below c hc

end Inert

/-- Nodes that stand for no tokens have no heads that matter. -/
theorem Node.heads_eq_nil {ns : List Node} (h : ∀ n ∈ ns, Inert n) : heads ns = [] := by
  rw [heads, List.map_eq_nil_iff, List.filter_eq_nil_iff]
  exact fun n hn => by simp [(h n hn).kind]

/-- Every node of a tree has parts that fit it. -/
inductive Shaped : Node → Prop
  | inert {n : Node} (h : Inert n) : Shaped n
  | mk {kind : Kind} {role : Role} {start stop : Nat} {children : List Node}
      (hkind : kind.isInert = false) (fits : Fits kind (Node.heads children))
      (below : ∀ c ∈ children, Shaped c) : Shaped (.mk kind role start stop children)

/-- The body that the members of the type stand in that a node declares or holds. -/
def bodyOf? (n : Node) : Option Node :=
  if n.kind.declaresType then n.child? .body else anonymousBody? n

namespace Shaped

variable {n b : Node}

/-- What stands below a node is shaped as well. -/
theorem child (h : Shaped n) (hb : b ∈ n.children) : Shaped b := by
  cases h with
  | inert h => exact .inert (h.child hb)
  | mk hkind fits below => exact below b hb

/-- The parts of a node fit it. -/
theorem fits (h : Shaped n) : Fits n.kind (Node.heads n.children) := by
  cases h with
  | inert h =>
      rw [Node.heads_eq_nil fun c hc => h.child hc]
      refine Fits.of_free ?_ (fun _ hmem => absurd hmem List.not_mem_nil)
      have hk := h.kind
      cases hn : n.kind <;> rw [hn] at hk <;> first | rfl | exact absurd hk (by decide)
  | mk hkind fits below => exact fits

/-- A node in a role stands for a token. -/
theorem not_inert (h : Shaped n) (hrole : n.role ≠ .none) : n.kind.isInert = false := by
  cases h with
  | inert h => exact absurd h.role hrole
  | mk hkind fits below => exact hkind

/-- A part in a role has its head among the heads. -/
theorem head_mem (h : Shaped n) (hb : b ∈ n.children) (hrole : b.role ≠ .none) :
    b.head ∈ Node.heads n.children :=
  Node.head_mem_heads hb ((h.child hb).not_inert hrole)

/-- What bears a name has a single word as its name. -/
theorem name_of_bearsName (h : Shaped n) (hk : n.kind.bearsName = true) :
    ∃ c ∈ n.children, n.child? .name = some c ∧ c.kind = .identifier := by
  obtain ⟨c, hc, hname, hrole⟩ := Node.exists_child? (h.fits.named.found hk)
  have hmem := h.head_mem hc (by rw [hrole]; decide)
  exact ⟨c, hc, hname, h.fits.named.word hk c.head hmem hrole⟩

/-- There is one body of a type at most among the parts of a node. -/
theorem bodies_length_le (h : Shaped n) :
    (n.children.filter (·.kind.isTypeBody)).length ≤ 1 := by
  refine Nat.le_trans ?_ h.fits.bodied.unique
  rw [Node.heads, List.countP_map, List.countP_filter, ← List.countP_eq_length_filter]
  refine List.countP_mono_left ?_
  intro d _ hd
  have hi : d.kind.isInert = false := Kind.isInert_eq_false_of_isTypeBody hd
  simp [Node.head, hd, hi]

/-- A body of a type is the only one among the parts of a node. -/
theorem bodies_eq (h : Shaped n) (hb : b ∈ n.children) (hbody : b.kind.isTypeBody = true) :
    n.children.filter (·.kind.isTypeBody) = [b] := by
  have hmem : b ∈ n.children.filter (·.kind.isTypeBody) := List.mem_filter.mpr ⟨hb, hbody⟩
  obtain ⟨d, hd⟩ := List.length_eq_one_iff.mp
    (Nat.le_antisymm h.bodies_length_le (List.length_pos_of_mem hmem))
  rw [hd, List.mem_singleton] at hmem
  rw [hd, hmem]

/-- Two bodies of types below one node are the same. -/
theorem body_unique (h : Shaped n) {c : Node} (hb : b ∈ n.children) (hc : c ∈ n.children)
    (hbb : b.kind.isTypeBody = true) (hcb : c.kind.isTypeBody = true) : b = c := by
  have heq := (h.bodies_eq hb hbb).symm.trans (h.bodies_eq hc hcb)
  exact (List.cons.inj heq).1

/-- A body of a type stands below a node that declares or holds one, where its members are looked
    for. -/
theorem body_eq (h : Shaped n) (hb : b ∈ n.children) (hbody : b.kind.isTypeBody = true) :
    bodyOf? n = some b
      ∧ (n.kind.declaresType = true ∨ (n.kind.ownsAnonymousBody = true ∧ b.kind = .classBody)) := by
  have hmem : b.head ∈ Node.heads n.children :=
    Node.head_mem_heads hb (Kind.isInert_eq_false_of_isTypeBody hbody)
  -- the first part in the role of the body is a body of a type, so it is this one
  have hfirst (hk : n.kind.declaresType = true ∨ n.kind = .enumConstant) (hrole : b.role = .body) :
      n.child? .body = some b := by
    obtain ⟨c, hc, hchild, hcrole⟩ := Node.exists_child? ⟨b.head, hmem, hrole⟩
    have hcm := h.head_mem hc (by rw [hcrole]; decide)
    rw [hchild, h.body_unique hb hc hbody (h.fits.bodied.only hk c.head hcm hcrole)]
  rcases h.fits.bodied.place b.head hmem hbody with ⟨hk, hrole⟩ | ⟨hk, hclass, hrole⟩
  · refine ⟨?_, .inl hk⟩
    rw [bodyOf?, if_pos hk]
    exact hfirst (.inl hk) hrole
  · refine ⟨?_, .inr ⟨hk, hclass⟩⟩
    have hno : ¬ n.kind.declaresType = true := by
      intro hd
      cases hn : n.kind <;> simp [hn, Kind.declaresType, Kind.ownsAnonymousBody] at hd hk
    rw [bodyOf?, if_neg hno, anonymousBody?]
    cases hn : n.kind <;> simp [hn, Kind.ownsAnonymousBody] at hk
    · exact hfirst (.inr hn) (hrole hn)
    · have hsome : (n.childOfKind? .classBody).isSome := by
        rw [Node.childOfKind?, List.find?_isSome]
        exact ⟨b, hb, beq_iff_eq.mpr hclass⟩
      obtain ⟨c, hc⟩ := Option.isSome_iff_exists.mp hsome
      have hck : c.kind = .classBody := by simpa using List.find?_some hc
      have hcb : c.kind.isTypeBody = true := by rw [hck]; rfl
      show n.childOfKind? .classBody = some b
      rw [hc, h.body_unique hb (List.mem_of_find?_eq_some hc) hbody hcb]

/-- What is taken for the body of a type is one. -/
theorem isTypeBody_of_bodyOf? (h : Shaped n) (hb : bodyOf? n = some b) :
    b ∈ n.children ∧ b.kind.isTypeBody = true := by
  have hrole (hk : n.kind.declaresType = true ∨ n.kind = .enumConstant)
      (hchild : n.child? .body = some b) : b ∈ n.children ∧ b.kind.isTypeBody = true := by
    have hmem := List.mem_of_find?_eq_some hchild
    have hbody : b.role = .body := by simpa using List.find?_some hchild
    exact ⟨hmem, h.fits.bodied.only hk b.head (h.head_mem hmem (by rw [hbody]; decide)) hbody⟩
  rw [bodyOf?] at hb
  split at hb
  · exact hrole (.inl ‹_›) hb
  · rw [anonymousBody?.eq_def] at hb
    split at hb
    · have hkind : b.kind = .classBody := by simpa using List.find?_some hb
      exact ⟨List.mem_of_find?_eq_some hb, by rw [hkind]; rfl⟩
    · exact hrole (.inr ‹_›) hb
    · exact nomatch hb

/-- The bodies of types among the parts of a node are those where the members of its type are looked
    for. -/
theorem bodies_eq_bodyOf? (h : Shaped n) :
    n.children.filter (·.kind.isTypeBody) = (bodyOf? n).toList := by
  cases hb : bodyOf? n with
  | some b =>
      obtain ⟨hmem, hbody⟩ := h.isTypeBody_of_bodyOf? hb
      exact h.bodies_eq hmem hbody
  | none =>
      refine List.filter_eq_nil_iff.mpr ?_
      intro c hc hbody
      rw [(h.body_eq hc hbody).1] at hb
      exact nomatch hb

end Shaped

end BeanMapper.Java
