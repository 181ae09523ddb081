import BeanMapper.Java.Grammar.Declarations
import BeanMapper.Proofs.Java.Grammar.Statements

/-! # Declarations — what the rules for types, members and files give

    A declaration of a type is made up of its name and its body
    (`builds_typeFromWord`), a method of its type and its name, and so on; what
    stands where a statement may stand is a node of which nothing is asked
    (`yields_anyStatement`). -/

namespace BeanMapper.Java.Grammar

open BeanMapper.Java.Parser

/-- The exceptions of a method are one node, or none if it names no exceptions. -/
theorem yields_throws? : Yields Plain throws? := by
  have hthrows : YieldsOne Plain (span .throws do
      word "throws"
      separatedBy "," (one type)) := by
    refine Yields.span (ρ := Plain) (fun r => ?_) rfl
    refine (skips_word "throws" r).bind fun r₁ _ h₁ => ?_
    exact (yieldsOne_type.one.separatedBy "," r₁).mono fun _ _ h => h.skip h₁
  exact fun r => .look (looks_atWord "throws") fun b => hthrows.one.onlyIf b r

/-- A list of types behind a word is one node, or none where the word is missing. -/
theorem yields_typesAfter? (w : String) {kind : Kind} (hkind : kind.isOrdinary = true) :
    Yields Plain (typesAfter? w kind) := by
  have htypes : YieldsOne Plain (span kind do
      word w
      one typeList) := by
    refine Yields.span (ρ := Plain) (fun r => ?_) hkind
    refine (skips_word w r).bind fun r₁ _ h₁ => ?_
    exact (yieldsOne_typeList.one r₁).mono fun _ _ h => h.skip h₁
  exact fun r => .look (looks_atWord w) fun b => htypes.one.onlyIf b r

/-! ## Methods -/

/-- Nothing behind the name of a method could be taken for its name or its type. -/
theorem yields_methodRest : Yields Worded methodRest := by
  intro r
  refine (yieldsOne_formalParameters.as .parameters r).bind fun r₁ parameters h₁ => ?_
  refine (yields_dimensions? r₁).bind fun r₂ dims h₂ => ?_
  refine (yields_throws? r₂).bind fun r₃ thrown h₃ => ?_
  have hhead : Part Worded r r₃ (parameters ++ dims ++ thrown) :=
    ((h₁.worded (by decide)).append (h₂.worded (by decide))).append (h₃.worded (by decide))
  -- a semicolon stands for a body that is not there
  refine (skips_trySymbol ";" r₃).bind fun r₄ _ h₄ => ?_
  split
  · exact .pure ((hhead.stop h₄).append (.nil (.refl r₄)))
  · refine (yieldsOne_block.as .body r₄).bind fun r₅ body h₅ => ?_
    exact .pure ((hhead.stop h₄).append (h₅.worded (by decide)))

/-- A method has a return type and a name. -/
theorem reads_methodFromType (r : Reader) :
    Reads r methodFromType fun r' ns =>
      Part Worded r r' ns ∧ Has .name ns ∧ Has .type ns := by
  refine ((reads_unannotatedType r).as .type).bind fun r₁ _ ⟨type, ⟨h₁, hbare⟩, hns⟩ => ?_
  subst hns
  refine (yieldsOne_declaredName.asName r₁).bind fun r₂ name ⟨h₂, hname⟩ => ?_
  refine (yields_methodRest r₂).bind fun r₃ rest h₃ => .pure ⟨?_, ?_, ?_⟩
  · exact ((h₁.type hbare).append h₂).of_header.append h₃
  · exact (hname.right [type.inRole .type]).left rest
  · exact ((Has.inRole type .type).left name).left rest

/-- The object in front of a call of a constructor is one node, without the dot. -/
theorem yieldsOne_outerObject : YieldsOne Plain outerObject := by
  intro r
  refine (yieldsOne_operand r).bind fun r₁ object h₁ => ?_
  refine (skips_symbol "." r₁).bind fun r₂ _ h₂ => ?_
  exact .pure (h₁.stop h₂)

/-- Asking for a call of a constructor reads no token. -/
theorem looks_atConstructorCall : Looks atConstructorCall := .canRead _

/-- Asking for a call of a constructor on an outer object reads no token. -/
theorem looks_atOuterConstructorCall : Looks atOuterConstructorCall := .canRead _

/-- A call of another constructor is one node. -/
theorem yieldsOne_constructorCall : YieldsOne Plain constructorCall := by
  refine Yields.span (ρ := AnyHead) (fun r => ?_) rfl
  refine .look looks_atConstructorCall fun b => ?_
  refine (yieldsOne_outerObject.one.onlyIf (!b) r).bind fun r₁ outer h₁ => ?_
  refine .look (looks_atSymbol "<") fun b => ?_
  refine (yieldsOne_typeArguments.one.onlyIf b r₁).bind fun r₂ typeArgs h₂ => ?_
  refine .look (looks_atWord "this") fun b => ?_
  -- nothing is asked of either word
  have hcallee : YieldsOne Plain (leaf (if b then .this else .super)) := by
    cases b
    · exact yieldsOne_leaf rfl
    · exact yieldsOne_leaf rfl
  refine (hcallee r₂).bind fun r₃ callee h₃ => ?_
  refine (yieldsOne_argumentList.as .arguments r₃).bind fun r₄ arguments h₄ => ?_
  refine (skips_symbol ";" r₄).bind fun r₅ _ h₅ => ?_
  exact .pure (((h₁.append h₂).join (h₃.join h₄)).stop h₅)

/-- The body of a constructor is one node over a call that may stand first and statements. -/
theorem yieldsOne_constructorBody : YieldsOne Plain constructorBody := by
  refine Yields.span (ρ := Plain) (fun r => ?_) rfl
  refine (skips_symbol _ r).bind fun r₁ _ h₁ => ?_
  refine .look looks_atConstructorCall fun _ => .look looks_atOuterConstructorCall fun _ => ?_
  refine (yieldsOne_constructorCall.one.onlyIf _ r₁).bind fun r₂ call h₂ => ?_
  refine (yields_statement.many (looks_notAtSymbol _) r₂).bind fun r₃ inner h₃ => ?_
  refine (skips_symbol _ r₃).bind fun r₄ _ h₄ => ?_
  exact .pure (((h₂.skip h₁).append h₃).stop h₄)

/-- A constructor has a name. -/
theorem reads_constructorFromName (r : Reader) :
    Reads r constructorFromName fun r' ns => Part Worded r r' ns ∧ Has .name ns := by
  refine (yieldsOne_identifier.asName r).bind fun r₁ name ⟨h₁, hname⟩ => ?_
  refine (yieldsOne_formalParameters.as .parameters r₁).bind fun r₂ parameters h₂ => ?_
  refine (yields_throws? r₂).bind fun r₃ thrown h₃ => ?_
  refine (yieldsOne_constructorBody.as .body r₃).bind fun r₄ body h₄ => .pure ⟨?_, ?_⟩
  · have hhead := (h₁.of_header.append (h₂.worded (by decide))).append (h₃.worded (by decide))
    exact hhead.append (h₄.worded (by decide))
  · exact ((hname.left parameters).left thrown).left body

/-! ## Types -/

/-- A body of a type, given how its members are read. -/
theorem reads_membersInBraces {kind : Kind} {member : Parser (List Node)}
    (hkind : kind.isTypeBody = true) (h : Yields Plain member) (r : Reader) :
    Reads r (membersInBraces kind member) (Lone kind r) := by
  refine .lone ?_
  -- the opening brace is a token of the body in front of everything in it
  refine (reads_symbol _ r).bind fun r₁ _ ⟨h₁, hlt⟩ => ?_
  refine (h.many (looks_notAtSymbol _) r₁).bind fun r₂ inner h₂ => ?_
  refine (skips_symbol _ r₂).bind fun r₃ _ h₃ => ?_
  exact .pure (.body hkind h₁ hlt (h₂.stop h₃))

/-- What follows the word for a class makes up a class. -/
theorem reads_classRest (r : Reader) :
    Reads r classRest fun r' ns => Completes r r' (.classDeclaration, ns) := by
  have hparent : YieldsOne Plain (span .superclass do
      word "extends"
      reach .type) := by
    refine Yields.span (ρ := Plain) (fun r => ?_) rfl
    refine (skips_word "extends" r).bind fun r₁ _ h₁ => ?_
    exact (yields_reach rfl r₁).mono fun _ _ h => h.skip h₁
  refine (yieldsOne_declaredName.asName r).bind fun r₁ name ⟨h₁, hname⟩ => ?_
  refine (yields_typeParameters? r₁).bind fun r₂ parameters h₂ => ?_
  refine .look (looks_atWord "extends") fun b => ?_
  refine (hparent.one.onlyIf b r₂).bind fun r₃ parent h₃ => ?_
  refine (yields_typesAfter? "implements" rfl r₃).bind fun r₄ interfaces h₄ => ?_
  refine (yields_typesAfter? "permits" rfl r₄).bind fun r₅ permitted h₅ => ?_
  refine ((reads_reachOne_classBody r₅).as .body).bind fun r₆ _ ⟨body, h₆, hns⟩ => ?_
  subst hns
  have hhead := (((h₁.append h₂.aside).append h₃.aside).append h₄.aside).append h₅.aside
  have hfound := (((hname.left parameters).left parent).left interfaces).left permitted
  exact .pure (.declaration rfl (hhead.heading _) hfound (fun hr => nomatch hr) rfl h₆)

/-- What follows the word for a record makes up a record. -/
theorem reads_recordRest (r : Reader) :
    Reads r recordRest fun r' ns => Completes r r' (.recordDeclaration, ns) := by
  refine (yieldsOne_declaredName.asName r).bind fun r₁ name ⟨h₁, hname⟩ => ?_
  refine (yields_typeParameters? r₁).bind fun r₂ parameters h₂ => ?_
  refine ((yieldsOne_formalParameters r₂).as .parameters).bind fun r₃ _ ⟨components, h₃, hns⟩ => ?_
  subst hns
  refine (yields_typesAfter? "implements" rfl r₃).bind fun r₄ interfaces h₄ => ?_
  refine ((reads_reachOne_classBody r₄).as .body).bind fun r₅ _ ⟨body, h₅, hns⟩ => ?_
  subst hns
  have hcomponents := (h₃.inRole .parameters).components
  have hhead := (((h₁.append h₂.aside).heading _).append hcomponents).append (h₄.aside.heading _)
  have hfound := ((hname.left parameters).left [components.inRole .parameters]).left interfaces
  refine .pure (.declaration rfl hhead hfound (fun _ => ?_) rfl h₅)
  exact ((Has.inRole components .parameters).right (name ++ parameters)).left interfaces

/-- What follows the word for an interface makes up an interface. -/
theorem reads_interfaceRest {member : Parser (List Node)} (h : Yields Plain member) (r : Reader) :
    Reads r (interfaceRest member) fun r' ns => Completes r r' (.interfaceDeclaration, ns) := by
  refine (yieldsOne_declaredName.asName r).bind fun r₁ name ⟨h₁, hname⟩ => ?_
  refine (yields_typeParameters? r₁).bind fun r₂ parameters h₂ => ?_
  refine (yields_typesAfter? "extends" rfl r₂).bind fun r₃ parents h₃ => ?_
  refine (yields_typesAfter? "permits" rfl r₃).bind fun r₄ permitted h₄ => ?_
  refine ((reads_membersInBraces rfl h r₄).as .body).bind fun r₅ _ ⟨body, h₅, hns⟩ => ?_
  subst hns
  have hhead := ((h₁.append h₂.aside).append h₃.aside).append h₄.aside
  have hfound := ((hname.left parameters).left parents).left permitted
  exact .pure (.declaration rfl (hhead.heading _) hfound (fun hr => nomatch hr) rfl h₅)

/-- What follows the mark of an annotation type makes one up. -/
theorem reads_annotationTypeRest {member : Parser (List Node)} (h : Yields Plain member)
    (r : Reader) :
    Reads r (annotationTypeRest member) fun r' ns =>
      Completes r r' (.annotationTypeDeclaration, ns) := by
  refine (yieldsOne_declaredName.asName r).bind fun r₁ name ⟨h₁, hname⟩ => ?_
  refine ((reads_membersInBraces rfl h r₁).as .body).bind fun r₂ _ ⟨body, h₂, hns⟩ => ?_
  subst hns
  exact .pure (.declaration rfl (h₁.heading _) hname (fun hr => nomatch hr) rfl h₂)

/-! ## Enumerations -/

/-- A constant is one node that bears its name, and it may have a body of its own. -/
theorem yieldsOne_enumConstant : YieldsOne Plain enumConstant := by
  suffices h : YieldsOne (IsHead .enumConstant .none) enumConstant from h.plain
  refine fun r => .node rfl ?_
  refine (yields_modifiers? false r).bind fun r₁ marks h₁ => ?_
  refine (yieldsOne_identifier.asName r₁).bind fun r₂ name h => ?_
  obtain ⟨h₂, hname⟩ := h
  refine .look (looks_atSymbol "(") fun b => ?_
  refine ((yieldsOne_argumentList.as .arguments).onlyIf b r₂).bind fun r₃ arguments h₃ => ?_
  have hhead := (h₁.aside.append h₂).append (h₃.header (by decide) (by decide))
  have hfound := (hname.right marks).left arguments
  -- only the body of a class is a body of a type, so the two cases are kept apart
  refine .look (looks_atSymbol _) fun b => ?_
  rw [onlyIf]
  split
  · refine ((reads_reachOne_classBody r₃).as .body).bind fun r₄ ns h => ?_
    obtain ⟨body, h₄, rfl⟩ := h
    exact .pure (.constant_body hhead hfound h₄)
  · rw [pure_bind, List.append_nil]
    exact .pure (.constant hhead hfound)

/-- Asking for the end of the constants reads no token. -/
theorem looks_atEndOfConstants : Looks atEndOfConstants :=
  .bind (looks_atSymbol ";") fun _ => .bind (looks_atSymbol _) fun _ => .pure _

/-- The constants of an enumeration are nodes in no role; a single comma may stand for none. -/
theorem yields_enumConstants : Yields Plain enumConstants := by
  have hitem : Yields Plain (do
      let constant ← enumConstant
      guard ((← trySymbol ",") || (← atEndOfConstants))
      return [constant]) := by
    intro r
    refine (yieldsOne_enumConstant r).bind fun r₁ constant h₁ => ?_
    refine (skips_trySymbol "," r₁).bind fun r₂ _ h₂ => ?_
    refine .look looks_atEndOfConstants fun _ => .look (.test _) fun _ => ?_
    exact .pure (h₁.stop h₂)
  intro r
  refine (skips_trySymbol "," r).bind fun r₁ isBare h₁ => ?_
  have hmany := hitem.many (c := do return !(← atEndOfConstants))
    (.bind looks_atEndOfConstants fun _ => .pure _)
  exact (hmany.onlyIf (!isBare) r₁).mono fun _ _ h => h.skip h₁

/-- The body of an enumeration holds its constants, and its members behind them. -/
theorem reads_enumBody {member : Parser (List Node)} (h : Yields Plain member) (r : Reader) :
    Reads r (span .enumBody do
      symbol "\x7b"
      let constants ← enumConstants
      let more ← onlyIf (← atSymbol ";") <| one <| span .enumBodyDeclarations do
        symbol ";"
        many (do return !(← atSymbol "\x7d")) member
      symbol "\x7d"
      return constants ++ more) (Lone .enumBody r) := by
  have hlate (r : Reader) : Reads r (one (span .enumBodyDeclarations do
      symbol ";"
      many (do return !(← atSymbol "\x7d")) member))
      fun r' ns => ∃ late, Lone .enumBodyDeclarations r r' late ∧ ns = [late] := by
    refine Reads.bind (.lone ?_) fun r' late hn => .pure ⟨late, hn, rfl⟩
    refine (skips_symbol ";" r).bind fun r₁ _ h₁ => ?_
    exact (h.many (looks_notAtSymbol _) r₁).mono fun _ _ h₂ => .late (h₂.skip h₁)
  refine .lone ?_
  refine (reads_symbol _ r).bind fun r₁ _ ⟨h₁, hlt⟩ => ?_
  refine (yields_enumConstants r₁).bind fun r₂ constants h₂ => ?_
  refine .look (looks_atSymbol ";") fun b => ?_
  rw [onlyIf]
  split
  · refine (hlate r₂).bind ?_
    rintro r₃ _ ⟨late, h₃, rfl⟩
    refine (skips_symbol _ r₃).bind fun r₄ _ h₄ => ?_
    exact .pure (.enumBody h₁ hlt h₂ (h₃.stop h₄))
  · -- without a semicolon the body holds its constants and nothing else
    rw [pure_bind, List.append_nil]
    refine (skips_symbol _ r₂).bind fun r₃ _ h₃ => ?_
    exact .pure (.body rfl h₁ hlt (h₂.stop h₃))

/-- What follows the word for an enumeration makes up an enumeration. -/
theorem reads_enumRest {member : Parser (List Node)} (h : Yields Plain member) (r : Reader) :
    Reads r (enumRest member) fun r' ns => Completes r r' (.enumDeclaration, ns) := by
  refine (yieldsOne_declaredName.asName r).bind fun r₁ name ⟨h₁, hname⟩ => ?_
  refine (yields_typesAfter? "implements" rfl r₁).bind fun r₂ interfaces h₂ => ?_
  refine (reads_enumBody h r₂).bind fun r₃ body h₃ => ?_
  have hhead := h₁.append h₂.aside
  have hfound := hname.left interfaces
  exact .pure (.declaration rfl (hhead.heading _) hfound (fun hr => nomatch hr) rfl h₃)

/-- A type from its keyword on makes up its declaration. -/
theorem builds_typeFromWord {member : BodySort → Parser (List Node)}
    (h : ∀ sort, Yields Plain (member sort)) : Builds (typeFromWord member) := by
  intro r
  -- the keyword belongs to no part, so each rest is put behind an empty row of modifiers
  refine (skips_tryWord "class" r).bind fun r₁ _ h₁ => ?_
  split
  · exact (reads_classRest r₁).bind fun r' _ hx => .pure (hx.prepend (.nil h₁))
  refine (skips_tryWord "interface" r₁).bind fun r₂ _ h₂ => ?_
  have h₂ := h₁.trans h₂
  split
  · exact (reads_interfaceRest (h _) r₂).bind fun r' _ hx => .pure (hx.prepend (.nil h₂))
  refine (skips_tryWord "enum" r₂).bind fun r₃ _ h₃ => ?_
  have h₃ := h₂.trans h₃
  split
  · exact (reads_enumRest (h _) r₃).bind fun r' _ hx => .pure (hx.prepend (.nil h₃))
  refine (skips_trySymbol _ r₃).bind fun r₄ _ h₄ => ?_
  have h₄ := h₃.trans h₄
  split
  · exact (reads_annotationTypeRest (h _) r₄).bind fun r' _ hx => .pure (hx.prepend (.nil h₄))
  refine (skips_word "record" r₄).bind fun r₅ _ h₅ => ?_
  exact (reads_recordRest r₅).bind fun r' _ hx => .pure (hx.prepend (.nil (h₄.trans h₅)))

/-! ## Members -/

/-- Asking for a record reads no token. -/
theorem looks_atRecord : Looks atRecord :=
  .bind (.ahead? 2) fun _ => .bind (looks_atWord "record") fun _ => .bind (.ahead? 1) fun _ => .pure _

/-- Asking for the declaration of a type reads no token. -/
theorem looks_atTypeWord : Looks atTypeWord :=
  .bind (looks_atWord "class") fun _ => .bind (looks_atWord "interface") fun _ =>
    .bind (looks_atWord "enum") fun _ => .bind (looks_atSymbol _) fun _ =>
      .bind looks_atRecord fun _ => .pure _

/-- Behind the type of fields stand the declared variables and nothing else. -/
theorem yields_fieldRest : Yields (IsHead .variableDeclarator .declarator) fieldRest := by
  intro r
  refine (yields_variableDeclarators r).bind fun r₁ declarators h₁ => ?_
  refine (skips_symbol ";" r₁).bind fun r₂ _ h₂ => ?_
  exact .pure (h₁.stop h₂)

/-- An element of an annotation has dimensions and a default value at most. -/
theorem yields_elementRest : Yields AnyHead elementRest := by
  intro r
  refine (skips_symbol "(" r).bind fun r₁ _ h₁ => ?_
  refine (skips_symbol ")" r₁).bind fun r₂ _ h₂ => ?_
  refine (yields_dimensions? r₂).bind fun r₃ dims h₃ => ?_
  refine (skips_tryWord "default" r₃).bind fun r₄ b h₄ => ?_
  refine (((yieldsOne_reachOne rfl).as .value).onlyIf b r₄).bind fun r₅ value h₅ => ?_
  refine (skips_symbol ";" r₅).bind fun r₆ _ h₆ => ?_
  exact .pure ((((h₃.skip (h₁.trans h₂)).stop h₄).join h₅).stop h₆)

/-- A field, a method or an element, from its type on. -/
theorem builds_typedMember (sort : BodySort) : Builds (typedMember sort) := by
  refine fun r => .look (looks_atWord "record") fun _ => .look (.test _) fun _ => ?_
  refine ((reads_unannotatedType r).as .type).bind fun r₁ _ ⟨type, ⟨h₁, hbare⟩, hns⟩ => ?_
  subst hns
  have htype := h₁.inRole .type
  refine .look (.ahead? 1) fun _ => ?_
  split
  · refine (yieldsOne_declaredName.asName r₁).bind fun r₂ name ⟨h₂, hname⟩ => ?_
    split
    · refine (yields_elementRest r₂).bind fun r₃ rest h₃ => ?_
      exact .pure (.of_part rfl ((htype.join h₂).join h₃))
    · refine (yields_methodRest r₂).bind fun r₃ rest h₃ => ?_
      have hpart := ((h₁.type hbare).append h₂).of_header.append h₃
      refine .pure (.member rfl hpart ((hname.right [type.inRole .type]).left rest) fun _ => ?_)
      exact ((Has.inRole type .type).left name).left rest
  · -- in a class it is a field, elsewhere a constant; both declare variables
    refine (yields_fieldRest r₁).bind fun r₂ declarators h₂ => .pure (.fields ?_ ?_)
    · split
      · rfl
      · rfl
    · refine (htype.mono ?_).append (h₂.mono ?_)
      · exact fun x hx hd => absurd (hx.symm.trans hd) (by decide)
      · exact fun x hx _ => congrArg Prod.fst hx

/-- A method or constructor with type parameters. -/
theorem builds_genericMember (sort : BodySort) : Builds (genericMember sort) := by
  refine fun r => .look (.test _) fun _ => ?_
  refine (yieldsOne_typeParameters r).bind fun r₁ parameters h₁ => ?_
  refine (yields_annotations r₁).bind fun r₂ marks h₂ => ?_
  refine .look (.ahead? 1) fun _ => ?_
  split
  · refine (reads_constructorFromName r₂).bind fun r₃ rest ⟨h₃, hname⟩ => .pure ?_
    have hmember : Completes r₂ r₃ (.constructorDeclaration, rest) :=
      .member rfl h₃ hname fun hm => nomatch hm
    exact hmember.prepend (h₁.stop h₂.advance)
  · refine (reads_methodFromType r₂).bind fun r₃ rest ⟨h₃, hname, htype⟩ => .pure ?_
    have hmember : Completes r₂ r₃ (.methodDeclaration, rest) := .member rfl h₃ hname fun _ => htype
    exact hmember.prepend (h₁.append h₂)

/-- A constructor from its name on. -/
theorem builds_constructorFromName :
    Builds (do return (.constructorDeclaration, ← constructorFromName)) := by
  intro r
  refine (reads_constructorFromName r).bind fun r₁ rest ⟨h₁, hname⟩ => ?_
  exact .pure (.member rfl h₁ hname fun hm => nomatch hm)

/-- A constructor of a record that names no parameters. -/
theorem builds_compactConstructor :
    Builds (do
      let name ← as .name identifier
      return (.compactConstructorDeclaration, name ++ (← as .body block))) := by
  intro r
  refine (yieldsOne_identifier.asName r).bind fun r₁ name ⟨h₁, hname⟩ => ?_
  refine (yieldsOne_block.as .body r₁).bind fun r₂ body h₂ => ?_
  have hpart := h₁.of_header.append (h₂.worded (by decide))
  exact .pure (.member rfl hpart (hname.left body) fun hm => nomatch hm)

/-- Modifiers go in front of the parts of what is made up behind them. -/
theorem reads_marked {p : Parser (Kind × List Node)} (hp : Builds p) {r r₁ : Reader}
    {marks : List Node} (h : Part Plain r r₁ marks) : Reads r₁ (do
      let (kind, rest) ← p
      return (kind, marks ++ rest)) (Completes r) :=
  (hp r₁).bind fun _ _ hrest => .pure (hrest.prepend h)

/-- A member is a node of which nothing is asked; by induction on how deep types may be. -/
theorem yields_memberUpTo (fuel : Nat) : ∀ sort, Yields Plain (memberUpTo fuel sort) := by
  induction fuel with
  | zero => exact fun sort r => .failure
  | succ fuel ih =>
      intro sort r
      refine (skips_trySymbol ";" r).bind fun r₁ _ h₁ => ?_
      split
      · exact .pure (.nil h₁)
      -- a block among the members initializes, with or without `static`
      refine .look (looks_atSymbol _) fun _ => ?_
      split
      · exact (yieldsOne_block.one r₁).mono fun _ _ h => h.skip h₁
      refine .look (looks_atWord "static") fun _ => .look (.ahead? 1) fun _ => ?_
      split
      · refine Reads.mono ((Yields.span (ρ := Plain) (fun r => ?_) rfl).one r₁)
          fun _ _ h => h.skip h₁
        refine (skips_skip 1 r).bind fun r₂ _ h₂ => ?_
        exact (yieldsOne_block.one r₂).mono fun _ _ h => h.skip h₂
      -- every other member is a node over its modifiers and what makes it up
      refine Reads.mono ((Builds.spanOf fun r => ?_).one r₁) fun _ _ h => h.skip h₁
      refine (yields_modifiers? false r).bind fun r₂ marks h₂ => ?_
      refine .look looks_atTypeWord fun _ => ?_
      dsimp only
      split
      · exact reads_marked (builds_typeFromWord ih) h₂
      refine .look (looks_atSymbol "<") fun _ => ?_
      split
      · exact reads_marked (builds_genericMember sort) h₂
      refine .look (.ahead? 1) fun _ => ?_
      split
      · refine .look (.ahead? 1) fun _ => ?_
        simpa only [bind_assoc, pure_bind] using reads_marked builds_constructorFromName h₂
      refine .look (.ahead? 1) fun _ => ?_
      split
      · simpa only [bind_assoc, pure_bind] using reads_marked builds_compactConstructor h₂
      · exact reads_marked (builds_typedMember sort) h₂

/-- There are more tokens than types inside types, so the bound on members goes. -/
theorem yields_member (sort : BodySort) : Yields Plain (member sort) := by
  intro r goals hgoals hclean ns r' h
  exact yields_memberUpTo (r.rest.length + 1) sort r goals hgoals hclean ns r' h

/-- The body of a class is a single node of that kind, as its goal asks for. -/
theorem reads_classBody (r : Reader) : Reads r classBody (Lone .classBody r) :=
  reads_membersInBraces rfl (yields_member .classMembers) r

/-! ## Files -/

/-- A scoped name in front of a semicolon is a node in no role. -/
theorem yields_nameAndEnd : Yields Plain nameAndEnd := by
  intro r
  refine (yieldsOne_scopedName r).bind fun r₁ name h₁ => ?_
  refine (skips_symbol ";" r₁).bind fun r₂ _ h₂ => ?_
  exact .pure (h₁.stop h₂)

/-- An import names something, or everything in it. -/
theorem yields_importRest : Yields Plain importRest := by
  have hall : Yields Plain (do
      guard (← atSymbol "*")
      one (leaf .asterisk)) := fun r =>
    .look (looks_atSymbol "*") fun _ => .look (.test _) fun _ => (yieldsOne_leaf rfl).one r
  intro r
  refine (skips_tryWord "static" r).bind fun r₁ _ h₁ => ?_
  refine (yieldsOne_scopedName r₁).bind fun r₂ name h₂ => ?_
  refine (skips_trySymbol "." r₂).bind fun r₃ b h₃ => ?_
  refine (hall.onlyIf b r₃).bind fun r₄ all h₄ => ?_
  refine (skips_symbol ";" r₄).bind fun r₅ _ h₅ => ?_
  exact .pure (((h₂.skip h₁).stop h₃).append (h₄.stop h₅))

/-- A directive of a module is one node over the names in it. -/
theorem yieldsOne_moduleDirective : YieldsOne Plain moduleDirective := by
  refine Yields.span (ρ := Plain) (fun r => ?_) rfl
  refine (skips_tryWord "requires" r).bind fun r₁ _ h₁ => ?_
  split
  · have hmark : YieldsOne Plain (leaf .requiresModifier) := yieldsOne_leaf rfl
    have hmarks := hmark.one.many
      (c := do return (← atWord "static") || (← atWord "transitive"))
      (.bind (looks_atWord "static") fun _ => .bind (looks_atWord "transitive") fun _ => .pure _)
    refine (hmarks r₁).bind fun r₂ marks h₂ => ?_
    refine (yields_nameAndEnd r₂).bind fun r₃ name h₃ => ?_
    exact .pure ((h₂.skip h₁).append h₃)
  · refine (skips_token r₁).bind fun r₂ t h₂ => ?_
    split
    · exact .failure
    · refine (yieldsOne_scopedName r₂).bind fun r₃ name h₃ => ?_
      refine (skips_tryWord _ r₃).bind fun r₄ b h₄ => ?_
      refine ((yieldsOne_scopedName.one.separatedBy ",").onlyIf b r₄).bind fun r₅ more h₅ => ?_
      refine (skips_symbol ";" r₅).bind fun r₆ _ h₆ => ?_
      exact .pure (((h₃.skip (h₁.trans h₂)).stop h₄).append (h₅.stop h₆))

/-- What stands in braces behind the name of a module is a node of which nothing is asked. -/
theorem yieldsOne_membersInBraces {kind : Kind} {member : Parser (List Node)}
    (hkind : kind.isOrdinary = true) (h : Yields Plain member) :
    YieldsOne Plain (membersInBraces kind member) := by
  refine Yields.span (ρ := Plain) (fun r => ?_) hkind
  refine (skips_symbol _ r).bind fun r₁ _ h₁ => ?_
  refine (h.many (looks_notAtSymbol _) r₁).bind fun r₂ inner h₂ => ?_
  refine (skips_symbol _ r₂).bind fun r₃ _ h₃ => ?_
  exact .pure ((h₂.skip h₁).stop h₃)

/-- A module has a name and a body. -/
theorem yields_moduleRest : Yields AnyHead moduleRest := by
  intro r
  refine (skips_tryWord "open" r).bind fun r₁ _ h₁ => ?_
  refine (skips_word "module" r₁).bind fun r₂ _ h₂ => ?_
  refine (yieldsOne_scopedName.as .name r₂).bind fun r₃ name h₃ => ?_
  have hbody : YieldsOne Plain (membersInBraces .moduleBody (one moduleDirective)) :=
    yieldsOne_membersInBraces rfl yieldsOne_moduleDirective.one
  refine (hbody.as .body r₃).bind fun r₄ body h₄ => ?_
  exact .pure ((h₃.skip (h₁.trans h₂)).join h₄)

/-- The head of a file is one node: an import, a package or a module. -/
theorem yieldsOne_fileDeclaration : YieldsOne Plain fileDeclaration := by
  refine Builds.spanOf fun r => ?_
  refine (skips_tryWord "import" r).bind fun r₁ _ h₁ => ?_
  split
  · refine (yields_importRest r₁).bind fun r₂ rest h₂ => ?_
    exact .pure (.of_part rfl (h₂.skip h₁))
  · refine (yields_annotations r₁).bind fun r₂ marks h₂ => ?_
    refine (skips_tryWord "package" r₂).bind fun r₃ _ h₃ => ?_
    have hmarks := (h₂.skip h₁).stop h₃
    split
    · refine (yields_nameAndEnd r₃).bind fun r₄ rest h₄ => ?_
      exact .pure (.of_part rfl (hmarks.append h₄))
    · refine (yields_moduleRest r₃).bind fun r₄ rest h₄ => ?_
      exact .pure (.of_part rfl (hmarks.join h₄))

/-- A method outside of any type has a return type and a name as well. -/
theorem yieldsOne_method : YieldsOne Plain method := by
  suffices h : YieldsOne (IsHead .methodDeclaration .none) method from h.plain
  refine fun r => .node rfl ?_
  refine (yields_modifiers? false r).bind fun r₁ marks h₁ => ?_
  refine (yields_typeParameters? r₁).bind fun r₂ parameters h₂ => ?_
  refine (yields_annotations r₂).bind fun r₃ more h₃ => ?_
  refine (reads_methodFromType r₃).bind fun r₄ rest ⟨h₄, hname, htype⟩ => .pure ?_
  have hmember : Completes r₃ r₄ (.methodDeclaration, rest) := .member rfl h₄ hname fun _ => htype
  exact hmember.fills r _ ((h₁.append h₂).append h₃)

/-- A type that is declared among statements is one node. -/
theorem yieldsOne_typeDeclaration : YieldsOne Plain typeDeclaration := by
  refine Builds.spanOf fun r => ?_
  refine (yields_modifiers? true r).bind fun r₁ marks h₁ => ?_
  refine (builds_typeFromWord yields_member r₁).bind fun r₂ ⟨kind, rest⟩ h₂ => ?_
  exact .pure (h₂.prepend h₁)

/-- What may stand where a statement may stand is a node of which nothing is asked. -/
theorem yields_anyStatement (isTop : Bool) : Yields Plain (anyStatement isTop) := by
  intro r
  refine (skips_trySymbol ";" r).bind fun r₁ _ h₁ => ?_
  refine Reads.mono (P := Part Plain r₁) ?_ fun _ _ h => h.skip h₁
  split
  · exact .pure (.nil (.refl r₁))
  refine .look (looks_atSymbol _) fun _ => ?_
  split
  · exact yieldsOne_block.one r₁
  refine .look (.canRead _) fun _ => ?_
  split
  · exact yieldsOne_fileDeclaration.one r₁
  refine .look (.canRead _) fun _ => ?_
  split
  · exact yieldsOne_typeDeclaration.one r₁
  refine .look (.canRead _) fun _ => ?_
  split
  · exact yieldsOne_method.one r₁
  refine .look (looks_atModifier true) fun _ => .look looks_atLocalVariables fun _ => ?_
  split
  · exact yieldsOne_localVariables.one r₁
  · exact yields_plainStatement r₁

end BeanMapper.Java.Grammar
