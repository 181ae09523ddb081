import BeanMapper.Proofs.Java.Reads

/-! # Members — what makes up a declaration

    Declarations of types, methods and variables ask for a name that is a
    single word, and declarations of types for a body.  Each theorem says of
    one such kind which parts, read one behind the other, make up a node:

    * `Completes.member` for methods, constructors and variables;
    * `Completes.declaration` for types, `Fills.constant` for constants;
    * `Completes.creation` for new objects with a body of their own;
    * `Completes.fields` for fields, `Fills.body` for bodies of types. -/

namespace BeanMapper.Java

/-- The heads of what stands in front of a body. -/
def Header : Head → Prop := fun x => Worded x ∧ x.2 ≠ .body ∧ x.2 ≠ .parameters

/-- The heads of what stands in front of the body of a declaration of a kind. -/
def Heading (kind : Kind) : Head → Prop := fun x =>
  Worded x ∧ x.2 ≠ .body ∧ (x.2 = .parameters → kind = .recordDeclaration)

/-- The heads that are no declarators but variables. -/
def Declarators : Head → Prop := fun x => x.2 = .declarator → x.1 = .variableDeclarator

variable {r r₁ r' : Reader} {ns : List Node} {ρ : Head → Prop} {kind : Kind} {role : Role}

/-- A role that is neither a name nor a type asks for no word. -/
theorem worded_of_role {x : Head} (hname : x.2 ≠ .name) (htype : x.2 ≠ .type) : Worded x :=
  ⟨fun h => absurd h hname, fun h => absurd h htype⟩

/-- Nodes in a role that is neither a name nor a type need be no words. -/
theorem Part.worded (h : Part (InRole role) r r' ns) (hrole : role ≠ .name ∧ role ≠ .type) :
    Part Worded r r' ns :=
  h.mono fun _ hx => worded_of_role (hx.symm ▸ hrole.1) (hx.symm ▸ hrole.2)

/-- Nodes that are neither names, types, bodies nor parameters may stand in front of a body. -/
theorem Part.header (h : Part (InRole role) r r' ns) (hrole : role ≠ .name ∧ role ≠ .type)
    (hbody : role ≠ .body ∧ role ≠ .parameters) : Part Header r r' ns :=
  h.mono fun _ hx => ⟨worded_of_role (hx.symm ▸ hrole.1) (hx.symm ▸ hrole.2), hx.symm ▸ hbody.1,
    hx.symm ▸ hbody.2⟩

/-- What has no role may stand in front of a body. -/
theorem Part.aside (h : Part Plain r r' ns) : Part Header r r' ns :=
  h.header (by decide) (by decide)

theorem Part.of_header (h : Part Header r r' ns) : Part Worded r r' ns := h.mono fun _ hx => hx.1

/-- What may stand in front of a body may stand in front of that of a declaration. -/
theorem Part.heading (h : Part Header r r' ns) (kind : Kind) : Part (Heading kind) r r' ns :=
  h.mono fun _ hx => ⟨hx.1, hx.2.1, fun hp => absurd hp hx.2.2⟩

/-- Components may stand in front of the body of a record. -/
theorem Part.components (h : Part (InRole .parameters) r r' ns) :
    Part (Heading .recordDeclaration) r r' ns :=
  h.mono fun x hx => by
    rw [InRole] at hx
    refine ⟨worded_of_role ?_ ?_, ?_, fun _ => rfl⟩
    all_goals
      rw [hx]
      decide

/-- A single node in a role is one of which its kind and its role are known. -/
theorem Part.single_inRole {n : Node} (h : Part ρ r r' [n]) (role : Role)
    (hhead : Header (n.kind, role)) : Part Header r r' [n.inRole role] := by
  refine ⟨(h.inRole role).row, (h.inRole role).free, List.forall_mem_singleton.mpr ?_⟩
  rw [Node.head, Node.inRole_kind, Node.inRole_role]
  exact hhead

/-- A single word in the role of a name. -/
theorem Part.name {n : Node} (h : Part (IsHead .identifier .none) r r' [n]) :
    Part Header r r' [n.inRole .name] := by
  have hkind : n.kind = .identifier :=
    congrArg Prod.fst (h.form n (List.mem_singleton_self n))
  exact h.single_inRole .name
    ⟨⟨fun _ => hkind, nofun⟩, nofun, nofun⟩

/-- A type without annotations in front in the role of a type. -/
theorem Part.type {n : Node} (h : Part ρ r r' [n]) (hkind : n.kind ≠ .annotatedType) :
    Part Header r r' [n.inRole .type] := by
  exact h.single_inRole .type
    ⟨⟨nofun, fun _ => hkind⟩, nofun, nofun⟩

/-- Among parts that may stand anywhere is no body of a type. -/
theorem Part.bodied (h : Part ρ r r' ns) (hkind : kind.declaresType = false)
    (hconstant : kind = .enumConstant → ∀ x ∈ Node.heads ns, x.2 ≠ .body) :
    Bodied kind (Node.heads ns) := by
  refine .of_none ?_ ?_ hkind hconstant
  · exact fun x hx => (Kind.isFree_iff.mp (h.forall_heads x hx).1).1
  · exact fun x hx hlate => absurd hlate (Kind.isFree_iff.mp (h.forall_heads x hx).1).2.1

/-- A part in a role is a head in that role, also with other parts around it. -/
theorem Part.exists_head_append (h : Part ρ r r' ns) (hn : Has role ns)
    (before after : List Node) : ∃ x ∈ Node.heads (before ++ ns ++ after), x.2 = role := by
  obtain ⟨x, hx, hrole⟩ := h.exists_head hn
  refine ⟨x, ?_, hrole⟩
  rw [Node.heads_append, Node.heads_append]
  exact List.mem_append_left _ (List.mem_append_right _ hx)

/-- A single word is read into the role of a name. -/
theorem YieldsOne.asName {q : Parser Node} (h : YieldsOne (IsHead .identifier .none) q)
    (r : Reader) :
    Reads r (Parser.as .name q) fun r' ns => Part Header r r' ns ∧ Has .name ns := by
  refine ((h r).as .name).mono fun r' ns ⟨n, hn, hns⟩ => ?_
  subst hns
  exact ⟨hn.name, .inRole n .name⟩

/-! ## Members -/

theorem Fills.member (hkind : kind.isMember = true) (h : Part Worded r r' ns)
    (hname : Has .name ns)
    (htype : kind = .methodDeclaration → Has .type ns) : Fills kind r r' ns := by
  have hplain : kind.isFree = true ∧ kind.declaresType = false ∧ kind ≠ .enumConstant
      ∧ kind.declaresFields = false ∧ kind ≠ .recordDeclaration ∧ kind.isLexical = false := by
    rcases Kind.isMember_iff.mp hkind with rfl | rfl | rfl | rfl | rfl <;> decide
  obtain ⟨hfree, hdeclares, hconstant, hfields, hrecord, hlexical⟩ := hplain
  refine .of_row h.row ⟨?_, ?_⟩ hfree hlexical
  · exact h.bodied hdeclares fun hc => absurd hc hconstant
  · refine .of_words (h.exists_head hname) ?_ (fun hm => h.exists_head (htype hm)) ?_ ?_ hfields
    · exact fun x hx => (h.forall_heads x hx).2
    · exact fun hr => absurd hr hrecord
    · exact fun hd => absurd hd (by simp [hdeclares])

theorem Completes.member (hkind : kind.isMember = true) (h : Part Worded r r' ns)
    (hname : Has .name ns)
    (htype : kind = .methodDeclaration → Has .type ns) : Completes r r' (kind, ns) where
  free := by
    rcases Kind.isMember_iff.mp hkind with rfl | rfl | rfl | rfl | rfl <;> rfl
  fills r₀ ms hms := by
    have hpart := (hms.worded (by decide)).append h
    exact .member hkind hpart (hname.right ms) fun hm => (htype hm).right ms

/-! ## Fields -/

theorem Completes.fields (hkind : kind.declaresFields = true) (h : Part Declarators r r' ns) :
    Completes r r' (kind, ns) := by
  have hplain : kind.isFree = true ∧ kind.declaresType = false ∧ kind ≠ .enumConstant
      ∧ kind.bearsName = false ∧ kind.isLexical = false := by
    have hmem : kind ∈ [Kind.fieldDeclaration, Kind.constantDeclaration] :=
      List.contains_iff_mem.mp hkind
    simp only [List.mem_cons, List.not_mem_nil, or_false] at hmem
    rcases hmem with rfl | rfl <;> decide
  obtain ⟨hfree, hdeclares, hconstant, hname, hlexical⟩ := hplain
  refine ⟨hfree, fun r₀ ms hms => ?_⟩
  have hpart : Part Declarators r₀ r' (ms ++ ns) := by
    refine (hms.mono ?_).append h
    exact fun x hx hd => absurd (hx.symm.trans hd) (by decide)
  refine .of_row hpart.row ⟨?_, ?_⟩ hfree hlexical
  · exact hpart.bodied hdeclares fun hc => absurd hc hconstant
  · refine ⟨?_, ?_, ?_, ?_, ?_, ?_, ?_⟩
    · exact fun hb => absurd hb (by simp [hname])
    · exact fun hb => absurd hb (by simp [hname])
    · rintro rfl
      exact absurd hname (by decide)
    · rintro rfl
      exact absurd hname (by decide)
    · rintro rfl
      exact absurd hname (by decide)
    · exact fun hd => absurd hd (by simp [hdeclares])
    · exact fun _ x hx => (hpart.forall_heads x hx).2

/-! ## Bodies -/

/-- Any parts behind a first token make up a body of a type. -/
theorem Fills.body (hkind : kind.isTypeBody = true) (h₁ : Advance r r₁)
    (hlt : r₁.rest.length < r.rest.length) (h : Part ρ r₁ r' ns) : Fills kind r r' ns where
  row := ⟨r₁, h₁, h.row, fun _ => hlt⟩
  stands := Kind.isInert_eq_false_of_isTypeBody hkind
  fits := by
    refine .of_free ?_ fun x hx => (h.forall_heads x hx).1
    cases kind <;> first | rfl | exact absurd hkind (by decide)
  word := by
    rintro rfl
    exact absurd hkind (by decide)
  bare hn := by
    cases kind <;> first | exact absurd hn (by decide) | exact absurd hkind (by decide)

/-- The heads with a body of a type at their end. -/
theorem heads_append_body {b : Kind} {x : Role} {body : Node} (hb : b.isTypeBody = true)
    (hhead : body.head = (b, x)) : Node.heads (ns ++ [body]) = Node.heads ns ++ [(b, x)] := by
  have hkind : body.kind = b := congrArg Prod.fst hhead
  have hinert : body.kind.isInert = false := by
    rw [hkind]
    exact Kind.isInert_eq_false_of_isTypeBody hb
  rw [Node.heads_append]
  simp [Node.heads, hinert, hhead]

/-- A node in another role is read where it was. -/
theorem Lone.inRole {n : Node} (h : Lone kind r r' n) (role : Role) :
    Row r r' [n.inRole role] ∧ (n.inRole role).head = (kind, role) := by
  have hk : n.kind = kind := congrArg Prod.fst h.head
  obtain ⟨r₁, r₂, h₁, hs, h₂⟩ := h.row.single
  refine ⟨.cons h₁ (hs.inRole role) (.nil h₂), Prod.ext ?_ (Node.inRole_role n role)⟩
  exact (Node.inRole_kind n role).trans hk

/-! ## Declarations with bodies -/

/-- With a body at the end the words of a declaration are those in front of it. -/
theorem Part.worded_append_body {b : Kind} {x : Role} {body : Node} (h : Part Worded r r' ns)
    (hb : b.isTypeBody = true) (hx : x ≠ .name ∧ x ≠ .type) (hhead : body.head = (b, x)) :
    ∀ y ∈ Node.heads (ns ++ [body]), Worded y := by
  intro y hy
  rw [heads_append_body hb hhead] at hy
  rcases List.mem_append.mp hy with hy | hy
  · exact (h.forall_heads y hy).2
  · obtain rfl := List.mem_singleton.mp hy
    exact worded_of_role hx.1 hx.2

theorem Completes.declaration {b : Kind} {body : Node} (hkind : kind.declaresType = true)
    (h : Part (Heading kind) r r₁ ns) (hname : Has .name ns)
    (hcomponents : kind = .recordDeclaration → Has .parameters ns)
    (hb : b.isTypeBody = true) (hbody : Lone b r₁ r' body) :
    Completes r r' (kind, ns ++ [body.inRole .body]) := by
  have hplain : kind.isFree = true ∧ kind.declaresFields = false ∧ kind ≠ .methodDeclaration
      ∧ kind.isLexical = false := by
    cases kind <;> first | decide | exact absurd hkind (by decide)
  obtain ⟨hfree, hfields, hmethod, hlexical⟩ := hplain
  obtain ⟨hrow, hhead⟩ := hbody.inRole .body
  refine ⟨hfree, fun r₀ ms hms => ?_⟩
  -- modifiers in front of the declaration may stand in front of its body as well
  have hpart : Part (Heading kind) r₀ r₁ (ms ++ ns) := (hms.aside.heading kind).append h
  rw [← List.append_assoc]
  refine .of_row (hpart.row.append hrow) ⟨?_, ?_⟩ hfree hlexical
  · rw [heads_append_body hb hhead]
    refine .append_body ?_ ?_ hb (.inl ⟨hkind, rfl⟩)
    · exact fun x hx => (hpart.forall_heads x hx).1
    · exact fun _ x hx => (hpart.forall_heads x hx).2.2.1
  · have hwords := (hpart.mono fun _ hx => hx.1).worded_append_body hb (by decide) hhead
    refine .of_words ?_ hwords ?_ ?_ ?_ hfields
    · exact h.exists_head_append hname ms _
    · exact fun hm => absurd hm hmethod
    · exact fun hr => h.exists_head_append (hcomponents hr) ms _
    · intro _ hrecord x hx hp
      rw [heads_append_body hb hhead] at hx
      rcases List.mem_append.mp hx with hx | hx
      · exact hrecord ((hpart.forall_heads x hx).2.2.2 hp)
      · obtain rfl := List.mem_singleton.mp hx
        exact nomatch hp

/-- A constant without a body. -/
theorem Fills.constant (h : Part Header r r' ns) (hname : Has .name ns) :
    Fills .enumConstant r r' ns := by
  refine .of_row h.row ⟨?_, ?_⟩ rfl (by decide)
  · exact h.bodied rfl fun _ x hx => (h.forall_heads x hx).2.2.1
  · refine .of_words (h.exists_head hname) ?_ (fun hm => nomatch hm) (fun hr => nomatch hr)
      (fun hd => nomatch hd) rfl
    exact fun x hx => (h.forall_heads x hx).2.1

/-- A constant with a body. -/
theorem Fills.constant_body {body : Node} (h : Part Header r r₁ ns)
    (hname : Has .name ns) (hbody : Lone .classBody r₁ r' body) :
    Fills .enumConstant r r' (ns ++ [body.inRole .body]) := by
  obtain ⟨hrow, hhead⟩ := hbody.inRole .body
  refine .of_row (h.row.append hrow) ⟨?_, ?_⟩ rfl (by decide)
  · rw [heads_append_body rfl hhead]
    refine .append_body ?_ ?_ rfl (.inr ⟨rfl, rfl, fun _ => rfl⟩)
    · exact fun x hx => (h.forall_heads x hx).1
    · exact fun _ x hx => (h.forall_heads x hx).2.2.1
  · refine .of_words ?_ (h.of_header.worded_append_body rfl (by decide) hhead)
      (fun hm => nomatch hm) (fun hr => nomatch hr) (fun hd => nomatch hd) rfl
    exact h.exists_head_append hname [] _

/-- A new object with a body of its own. -/
theorem Completes.creation {body : Node} (h : Part ρ r r₁ ns) (hbody : Lone .classBody r₁ r' body) :
    Completes r r' (.objectCreationExpression, ns ++ [body]) := by
  refine ⟨rfl, fun r₀ ms hms => ?_⟩
  have hpart := hms.join h
  rw [← List.append_assoc]
  show Fills .objectCreationExpression r₀ r' (ms ++ ns ++ [body])
  refine .of_row (hpart.row.append hbody.row) ⟨?_, .of_open rfl⟩ rfl (by decide)
  rw [heads_append_body rfl hbody.head]
  refine .append_body ?_ ?_ rfl (.inr ⟨rfl, rfl, fun hc => nomatch hc⟩)
  · exact fun x hx => (hpart.forall_heads x hx).1
  · rintro (hd | hc)
    · exact absurd hd (by decide)
    · exact nomatch hc

/-- Tokens may be passed over behind a single node. -/
theorem Lone.stop {n : Node} (h : Lone kind r r₁ n) (h₁ : Advance r₁ r') : Lone kind r r' n := by
  refine ⟨?_, h.head⟩
  have := h.row.append (.nil h₁)
  rwa [List.append_nil] at this

/-- The members behind the constants of an enumeration. -/
theorem Fills.late (h : Part ρ r r' ns) : Fills .enumBodyDeclarations r r' ns where
  row := ⟨r, .refl r, h.row, fun hb => absurd hb (by decide)⟩
  stands := rfl
  fits := .of_free rfl fun x hx => (h.forall_heads x hx).1
  word := fun hi => nomatch hi
  bare := fun hn => absurd hn (by decide)

/-- The body of an enumeration with members behind its constants. -/
theorem Fills.enumBody {late : Node} (h₁ : Advance r r₁) (hlt : r₁.rest.length < r.rest.length)
    {r₂ : Reader} (h : Part ρ r₁ r₂ ns) (hlate : Lone .enumBodyDeclarations r₂ r' late) :
    Fills .enumBody r r' (ns ++ [late]) where
  row := ⟨r₁, h₁, h.row.append hlate.row, fun _ => hlt⟩
  stands := rfl
  fits := by
    have hmem : ∀ x ∈ Node.heads (ns ++ [late]), x.1.isTypeBody = false := by
      intro x hx
      rw [Node.heads_append] at hx
      rcases List.mem_append.mp hx with hx | hx
      · exact (Kind.isFree_iff.mp (h.forall_heads x hx).1).1
      · obtain ⟨n, hn, -, rfl⟩ := Node.mem_heads_iff.mp hx
        obtain rfl := List.mem_singleton.mp hn
        rw [hlate.head]
        rfl
    exact ⟨.of_none hmem (fun _ _ _ => rfl) rfl (fun hc => nomatch hc), .of_open rfl⟩
  word := fun hi => nomatch hi
  bare := fun hn => absurd hn (by decide)

end BeanMapper.Java
