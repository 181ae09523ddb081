import BeanMapper.Proofs.Java.Enclosing
import BeanMapper.Proofs.Java.Innermost
import BeanMapper.Proofs.Names.Handles

/-! # Handles — the types without a name in a tree

    A type without a name is known by the offset of its body.  In a tree that is
    laid out in its text this is enough:

    * `Laid.body_unique` says that no two bodies of types start at one offset,
      since the parts of a body start behind its first token;
    * `Place.plain_standing` says that the names of the types around a place are
      made of words, so no handle is among their suffixes;
    * `declared_cases` says it of every declaration of a tree: **it is that of a
      body without a name, under its handle, or has a plain name**;
    * `exists_erased_of_returnTypeOf` says that what a method returns is known
      by an erased name. -/

namespace BeanMapper.Java

variable {source : List Char} {root n b c : Node} {above around rest : List Node} {s : Synthesis}

/-! ## Bodies at one offset -/

/-- Above the body of a type there is no keyword. -/
theorem Place.named_of_body (h : Place root b above) (hroot : Laid source root)
    (hbody : b.kind.isTypeBody = true) : ∀ m ∈ b :: above, m.kind.isNamed = true :=
  List.forall_mem_cons.mpr ⟨Kind.isNamed_of_isTypeBody hbody,
    h.named hroot (Kind.isInert_eq_false_of_isTypeBody hbody)⟩

/-- Nothing that starts where the body of a type does stands below it. -/
theorem Place.not_below_body (h : Place root c (b :: rest)) (hroot : Laid source root)
    (hbody : b.kind.isTypeBody = true) : c.covers b.start = false := by
  obtain ⟨hb, hc⟩ := h.parent
  have hlt := ((hb.laid hroot).here.opened hbody).2 c hc
  rw [Bool.eq_false_iff, ne_eq, Node.covers_iff]
  omega

/-- The body of a type covers its first byte. -/
theorem Place.covers_start (h : Place root b above) (hroot : Laid source root)
    (hbody : b.kind.isTypeBody = true) : b.covers b.start = true :=
  Node.covers_iff.mpr ⟨Nat.le_refl _, ((h.laid hroot).here.opened hbody).1⟩

/-- The way down to where the body of a type starts goes through it. -/
theorem Place.suffix_pathFrom_start (h : Place root b above) (hroot : Laid source root)
    (hnested : Nested root) (hbody : b.kind.isTypeBody = true) :
    b :: above <:+ pathFrom b.start root :=
  h.suffix_pathFrom hnested (h.named_of_body hroot hbody) (h.covers_start hroot hbody)

/-- Below the body of a type there is no other one that starts where it does. -/
theorem Place.eq_of_start_eq (h : Place root b above) (hroot : Laid source root)
    (hnested : Nested root) (hbody : b.kind.isTypeBody = true) (hother : c.kind.isTypeBody = true)
    (hstart : b.start = c.start) (hc : c :: around <:+ b :: above) : b = c := by
  rcases List.suffix_cons_iff.mp hc with heq | ⟨between, heq⟩
  · exact (List.cons.inj heq).1.symm
  · -- some part of the outer body holds the inner one
    obtain ⟨front, part, hpart⟩ : ∃ front part, b :: between = front ++ [part] :=
      ⟨_, _, (List.dropLast_append_getLast (List.cons_ne_nil b between)).symm⟩
    have hsuffix : part :: c :: around <:+ b :: above := by
      refine ⟨front, ?_⟩
      rw [← heq, ← List.cons_append, hpart, List.append_assoc, List.singleton_append]
    have hcovers := h.covers_of_suffix hnested hsuffix (h.covers_start hroot hbody)
    rw [hstart, (h.suffix hsuffix).not_below_body hroot hother] at hcovers
    exact absurd hcovers Bool.false_ne_true

/-- **No two bodies of types start at one offset.** -/
theorem Laid.body_unique (hroot : Laid source root) (hnested : Nested root)
    (hb : Place root b above) (hc : Place root c around) (hbody : b.kind.isTypeBody = true)
    (hother : c.kind.isTypeBody = true) (hstart : b.start = c.start) : b = c := by
  have hbpath := hb.suffix_pathFrom_start hroot hnested hbody
  have hcpath := hc.suffix_pathFrom_start hroot hnested hother
  rw [← hstart] at hcpath
  -- both are on one way down, so one stands below the other
  rcases List.suffix_or_suffix_of_suffix hbpath hcpath with h | h
  · exact (hc.eq_of_start_eq hroot hnested hother hbody hstart.symm h).symm
  · exact hb.eq_of_start_eq hroot hnested hbody hother hstart h

/-! ## The names of declared types -/

/-- Angle brackets do not stand in words. -/
theorem Lexer.IsWord.plain {cs : List Char} (h : Lexer.IsWord cs) : '<' ∉ cs :=
  h.notMem (by decide +kernel)

/-- The name that a declaration gives itself is a word. -/
theorem isWord_ownName? (hshaped : Shaped n) (hlaid : Laid source n)
    (hkind : n.kind.bearsName = true) {own : String} (h : ownName? source n = some own) :
    Lexer.IsWord own.toList := by
  obtain ⟨c, hc, hchild, hword⟩ := hshaped.name_of_bearsName hkind
  rw [ownName?, hchild, Option.map_some] at h
  obtain rfl := Option.some.inj h
  rw [Node.words, String.toList_ofList]
  exact (hlaid.child hc).here.word hword

/-- All names of types that a node may stand in are plain. -/
def Standing.IsPlain : Standing → Prop
  | .under type => ∀ t, type = some t → t.IsPlain
  | .inside type => ∀ t, type = some t → t.IsPlain
  | .aside => True

/-- A word behind plain names is a plain name. -/
theorem Standing.IsPlain.nameOf {st : Standing} (h : st.IsPlain) {own : String}
    (hown : '<' ∉ own.toList) : (st.nameOf own).IsPlain := by
  cases st with
  | under type => exact hown
  | aside => exact hown
  | inside type =>
      cases type with
      | none => exact hown
      | some outer =>
          show '<' ∉ (outer.name ++ "." ++ own).toList
          simp only [String.toList_append, List.mem_append, not_or]
          exact ⟨⟨h outer rfl, by decide⟩, hown⟩

/-- The names that a node leads into are plain, since its own is. -/
theorem Standing.IsPlain.step {st : Standing} (h : st.IsPlain)
    (hown : n.kind.declaresType = true → ∀ own, ownName? source n = some own → '<' ∉ own.toList) :
    (st.step source n).IsPlain := by
  rw [Standing.step.eq_def]
  split
  · intro t ht
    obtain ⟨own, hname, rfl⟩ := Option.map_eq_some_iff.mp ht
    exact h.nameOf (hown ‹_› own hname)
  · split
    · exact fun t ht => absurd ht.symm (Option.some_ne_none t)
    · split
      · split
        · exact h
        · trivial
      · split
        · exact h
        · trivial
      · trivial

/-- The names of the types around a place are plain; by induction on the place. -/
theorem Place.plain_standing (hshaped : Shaped root) (hroot : Laid source root)
    (h : Place root n above) : (standing source above).IsPlain := by
  induction h with
  | root => trivial
  | child h hn ih =>
      refine ih.step fun hkind own hown => ?_
      exact (isWord_ownName? (h.shaped hshaped) (h.laid hroot)
        (Kind.bearsName_of_declaresType hkind) hown).plain

/-- A declared type has a name of its own, with that of the type around it in front. -/
theorem Place.declaredName?_eq (hshaped : Shaped root) (h : Place root n above)
    (hkind : n.kind.declaresType = true) {name : TypeName}
    (hname : declaredName? source n above = some name) :
    ∃ own, ownName? source n = some own ∧ name = (standing source above).nameOf own := by
  have hclass : n.kind ≠ .classBody := fun hk => by
    rw [hk] at hkind
    exact nomatch hkind
  rw [declaredName?, if_neg (by simp [isAnonymousBody, hclass]), if_pos hkind] at hname
  obtain ⟨own, hown, hname⟩ := Option.bind_eq_some_iff.mp hname
  rw [memberName?_eq hshaped above h] at hname
  exact ⟨own, hown, (Option.some.inj hname).symm⟩

/-- A declared type has a plain name. -/
theorem Place.plain_declaredName? (hshaped : Shaped root) (hroot : Laid source root)
    (h : Place root n above) (hkind : n.kind.declaresType = true) {name : TypeName}
    (hname : declaredName? source n above = some name) : name.IsPlain := by
  obtain ⟨own, hown, rfl⟩ := h.declaredName?_eq hshaped hkind hname
  have hword := isWord_ownName? (h.shaped hshaped) (h.laid hroot)
    (Kind.bearsName_of_declaresType hkind) hown
  exact (h.plain_standing hshaped hroot).nameOf hword.plain

/-! ## Declarations -/

mutual

/-- What is declared in a node is declared at some place below it. -/
theorem exists_place_of_mem {d : Declaration} : ∀ {n : Node} {above : List Node},
    Place root n above → d ∈ declarationsIn source s above n →
      ∃ m rest, Place root m rest ∧ declarationAt? source s m rest = some d
  | .mk kind role start stop children, above, h, hd => by
      rw [declarationsIn] at hd
      rcases List.mem_append.mp hd with hd | hd
      · exact ⟨_, above, h, Option.mem_toList.mp hd⟩
      · exact exists_place_of_mem_all h (fun c hc => hc) hd

/-- What is declared in parts of a node is declared at some place below it. -/
theorem exists_place_of_mem_all {d : Declaration} {p : Node} : ∀ {ns : List Node}
    {above : List Node}, Place root p above → (∀ c ∈ ns, c ∈ p.children) →
    d ∈ declarationsInAll source s (p :: above) ns →
      ∃ m rest, Place root m rest ∧ declarationAt? source s m rest = some d
  | [], _, _, _, hd => absurd hd List.not_mem_nil
  | n :: ns, above, h, hns, hd => by
      obtain ⟨hn, hns⟩ := List.forall_mem_cons.mp hns
      rw [declarationsInAll] at hd
      rcases List.mem_append.mp hd with hd | hd
      · exact exists_place_of_mem (.child h hn) hd
      · exact exists_place_of_mem_all h hns hd

end

/-- A type without a name is declared below the node that holds its body. -/
theorem anonymousBody_of_declarationAt? (hshaped : Shaped n) {d : Declaration}
    (hkind : n.kind.declaresType = false) (hd : declarationAt? source s n above = some d) :
    ∃ body ∈ n.children, isAnonymousBody body (n :: above) = true
      ∧ d = anonymousDeclaration source body := by
  simp only [declarationAt?, Place.declarationKind?_eq_none hkind, Option.map_eq_some_iff] at hd
  obtain ⟨body, hbody, rfl⟩ := hd
  have hof : bodyOf? n = some body := by rw [bodyOf?, if_neg (by simp [hkind]), hbody]
  obtain ⟨hmem, htype⟩ := hshaped.isTypeBody_of_bodyOf? hof
  obtain ⟨-, hdeclares | ⟨howns, hclass⟩⟩ := hshaped.body_eq hmem htype
  · rw [hkind] at hdeclares
    exact absurd hdeclares Bool.false_ne_true
  · exact ⟨body, hmem, by simp [isAnonymousBody, hclass, howns], rfl⟩

/-- **A declaration of a tree is that of a body without a name, under its handle, or has a plain
    name.** -/
theorem declared_cases (hshaped : Shaped root) (hroot : Laid source root) {d : Declaration}
    (hd : d ∈ declarationsIn source s [] root) :
    (∃ body above, Place root body above ∧ isAnonymousBody body above = true
        ∧ d = anonymousDeclaration source body)
      ∨ (d.kind ≠ .anonymousType ∧ d.typeName.IsPlain) := by
  obtain ⟨n, above, h, hd⟩ := exists_place_of_mem .root hd
  cases hkind : n.kind.declaresType with
  | false =>
      obtain ⟨body, hmem, hanonymous, rfl⟩ :=
        anonymousBody_of_declarationAt? (h.shaped hshaped) hkind hd
      exact .inl ⟨body, n :: above, .child h hmem, hanonymous, rfl⟩
  | true =>
      obtain ⟨k, hk⟩ := Place.declarationKind?_of_declaresType hkind
      simp only [declarationAt?, hk, Option.map_eq_some_iff] at hd
      obtain ⟨name, hname, rfl⟩ := hd
      refine .inr ⟨?_, ?_⟩
      · have hnot : k ≠ .anonymousType := by
          rintro rfl
          cases hn : n.kind <;> simp [declarationKind?, hn] at hk
        rw [namedDeclaration]
        obtain ⟨added, heq, -⟩ := complete_eq s _ _
        rw [heq]
        exact hnot
      · rw [typeName_namedDeclaration]
        exact h.plain_declaredName? hshaped hroot hkind hname

/-! ## Return types -/

mutual

/-- A type is known by the erased text of what is written. -/
theorem exists_erased_of_writtenType? {t : TypeName} : ∀ {n : Node},
    writtenType? source n = some t → ∃ written, t = .erased written
  | .mk kind role start stop children, h => by
      rw [writtenType?] at h
      split at h
      · exact exists_erased_of_lastWrittenType? h
      · exact ⟨_, (Option.some.inj h).symm⟩

/-- The last of some types is known by the erased text of what is written. -/
theorem exists_erased_of_lastWrittenType? {t : TypeName} : ∀ {ns : List Node},
    lastWrittenType? source ns = some t → ∃ written, t = .erased written
  | [], h => nomatch h
  | [_], h => exists_erased_of_writtenType? h
  | _ :: n :: ns, h =>
      exists_erased_of_lastWrittenType? (show lastWrittenType? source (n :: ns) = some t from h)

end

/-- What a method returns, if it returns a type, has an erased name. -/
theorem exists_erased_of_returnTypeOf {t : TypeName}
    (h : (returnTypeOf source n).asType? = some t) : ∃ written, t = .erased written := by
  rw [returnTypeOf.eq_def] at h
  split at h
  · exact nomatch h
  · split at h
    · exact nomatch h
    · split at h
      · exact nomatch h
      · split at h
        · rename_i hwritten
          obtain rfl := Option.some.inj h
          exact exists_erased_of_writtenType? hwritten
        · exact nomatch h

end BeanMapper.Java
