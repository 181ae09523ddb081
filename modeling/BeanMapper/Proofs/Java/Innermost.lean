import BeanMapper.Proofs.Java.Layout
import BeanMapper.Proofs.Java.Places

/-! # Innermost methods — going down to a node and up to its method

    A cursor goes down into the parts that cover its offset, and from there up
    to the first method.  Where ranges are nested this finds the smallest
    method around the offset:

    * `Nested` is what a tree has to fulfil, and `Laid.nested` says that the
      tree of every text does;
    * `Place.suffix_pathFrom` and `place_of_suffix_pathFrom` say that the way
      down passes the nodes that cover the offset and no others;
    * `nearestMethod?_eq_some_iff` says that the first method on the way up is
      the one that all others on it stand above;
    * `smallest_iff_nearest` and `enclosingMethod?_innermost` put them together:
      **the method that is found is the smallest one around the offset**. -/

namespace BeanMapper.Java

/-! ## Trees with nested ranges -/

namespace Node

mutual

/-- How many nodes stand below each other under a node at most. -/
def depth : Node → Nat
  | mk _ _ _ _ children => depthAll children

/-- How many of the given nodes and those under them stand below each other at most. -/
def depthAll : List Node → Nat
  | [] => 0
  | n :: ns => max (depth n + 1) (depthAll ns)

end

/-- A node is deeper than what stands in it. -/
theorem depth_lt_of_mem {n p : Node} (h : n ∈ p.children) : n.depth < p.depth := by
  obtain ⟨kind, role, start, stop, children⟩ := p
  show n.depth < depthAll children
  replace h : n ∈ children := h
  induction children with
  | nil => exact absurd h List.not_mem_nil
  | cons m ms ih =>
      rw [depthAll]
      rcases List.mem_cons.mp h with rfl | h
      · exact Nat.lt_of_lt_of_le (Nat.lt_succ_self _) (Nat.le_max_left _ _)
      · exact Nat.lt_of_lt_of_le (ih h) (Nat.le_max_right _ _)

theorem covers_iff {offset : Nat} {n : Node} :
    n.covers offset = true ↔ n.start ≤ offset ∧ offset < n.stop := by
  rw [covers, Bool.and_eq_true, decide_eq_true_eq, decide_eq_true_eq]

end Node

/-- In a tree the ranges of parts are nested in that of the node above and have no offset in common;
    methods stand below nodes that count for a cursor, and the root is none. -/
structure Nested (root : Node) : Prop where
  /-- A part covers no offset that the node above does not. -/
  inside : ∀ {n p : Node} {above : List Node}, Place root n (p :: above) →
    ∀ offset, n.covers offset = true → p.covers offset = true
  /-- Two parts of a node cover no offset both. -/
  apart : ∀ {n : Node} {above : List Node}, Place root n above →
    n.children.Pairwise fun a b => ∀ offset, ¬ (a.covers offset = true ∧ b.covers offset = true)
  /-- No method stands below a keyword. -/
  named : ∀ {n : Node} {above : List Node}, Place root n above → n.kind.isMethod = true →
    ∀ p ∈ above, p.kind.isNamed = true
  /-- The root is no method. -/
  program : root.kind.isMethod = false

variable {root n : Node} {above rest : List Node} {offset : Nat} {source : List Char}

namespace Place

/-- A place is as far from the root as there are nodes above it, and the tree is no deeper than
    that. -/
theorem length_add_depth_le (h : Place root n above) : above.length + n.depth ≤ root.depth := by
  induction h with
  | root => exact Nat.le_of_eq (Nat.zero_add _)
  | @child n p above h hn ih =>
      have hlt := Node.depth_lt_of_mem hn
      rw [List.length_cons]
      omega

/-- Each node above a place has a place itself. -/
theorem suffix (h : Place root n above) {m : Node} (hm : m :: rest <:+ n :: above) :
    Place root m rest := by
  induction h with
  | root =>
      obtain h | h := List.suffix_cons_iff.mp hm
      · obtain ⟨rfl, rfl⟩ := List.cons.inj h
        exact .root
      · exact absurd (List.suffix_nil.mp h) (List.cons_ne_nil _ _)
  | child h hn ih =>
      obtain h' | h' := List.suffix_cons_iff.mp hm
      · obtain ⟨rfl, rfl⟩ := List.cons.inj h'
        exact .child h hn
      · exact ih h'

/-- What stands in a tree that is laid out is laid out. -/
theorem laid (h : Place root n above) (hroot : Laid source root) : Laid source n := by
  induction h with
  | root => exact hroot
  | child h hn ih => exact ih.child hn

/-- Below a keyword there are comments alone. -/
theorem inert (h : Place root n above) (hroot : Laid source root) {p : Node} (hp : p ∈ above)
    (hnamed : p.kind.isNamed = false) : Inert n := by
  induction h with
  | root => exact absurd hp List.not_mem_nil
  | child h hn ih =>
      rcases List.mem_cons.mp hp with rfl | hp
      · exact (h.laid hroot).here.bare hnamed _ hn
      · exact (ih hp).child hn

/-- Above a node that is no comment and no part of a string there is no keyword. -/
theorem named (h : Place root n above) (hroot : Laid source root) (hkind : n.kind.isInert = false) :
    ∀ p ∈ above, p.kind.isNamed = true := by
  intro p hp
  rw [← Bool.not_eq_false]
  intro hnamed
  have hinert := (h.inert hroot hp hnamed).kind
  rw [hkind] at hinert
  exact Bool.false_ne_true hinert

end Place

/-- A node that begins and ends before another one covers no offset of it. -/
theorem Node.Before.apart {a b : Node} (h : a.Before b) (offset : Nat) :
    ¬ (a.covers offset = true ∧ b.covers offset = true) := by
  rintro ⟨ha, hb⟩
  rw [Node.covers_iff] at ha hb
  have hle := h.2
  omega

/-- In a tree that is laid out in a text, ranges are nested. -/
theorem Laid.nested (h : Laid source root) (hroot : root.kind.isMethod = false) : Nested root where
  inside hplace offset hcovers := by
    obtain ⟨hp, hn⟩ := hplace.parent
    obtain ⟨hstart, hstop⟩ := (hp.laid h).here.inside _ hn
    rw [Node.covers_iff] at hcovers ⊢
    omega
  apart hplace := (hplace.laid h).here.sorted.imp fun hbefore => hbefore.apart
  named hplace hmethod := hplace.named h (Kind.isInert_eq_false_of_isMethod hmethod)
  program := hroot

/-! ## The way down -/

theorem pathFrom_eq (offset : Nat) (n : Node) :
    pathFrom offset n = pathInto offset n.children ++ [n] := by
  cases n
  rfl

mutual

/-- Below its first node the way down passes nodes that cover the offset alone. -/
theorem covers_of_mem_pathFrom {m : Node} : ∀ {n : Node}, m ∈ pathFrom offset n →
    m = n ∨ m.covers offset = true
  | .mk kind role start stop children, hm => by
      rw [pathFrom, List.mem_append] at hm
      rcases hm with hm | hm
      · exact .inr (covers_of_mem_pathInto hm)
      · exact .inl (List.mem_singleton.mp hm)

/-- The way down into some nodes passes nodes that cover the offset alone. -/
theorem covers_of_mem_pathInto {m : Node} : ∀ {ns : List Node}, m ∈ pathInto offset ns →
    m.covers offset = true
  | [], hm => absurd hm List.not_mem_nil
  | n :: ns, hm => by
      rw [pathInto] at hm
      split at hm
      · rename_i hn
        rw [Bool.and_eq_true] at hn
        rcases covers_of_mem_pathFrom hm with rfl | hm
        · exact hn.2
        · exact hm
      · exact covers_of_mem_pathInto hm

end

/-- The way down goes through the one part that covers the offset. -/
theorem pathInto_eq {ns : List Node} (hmem : n ∈ ns) (hnamed : n.kind.isNamed = true)
    (hcovers : n.covers offset = true)
    (hapart : ns.Pairwise fun a b => ∀ offset, ¬ (a.covers offset = true ∧ b.covers offset = true)) :
    pathInto offset ns = pathFrom offset n := by
  induction ns with
  | nil => exact absurd hmem List.not_mem_nil
  | cons m ms ih =>
      obtain ⟨hm, hms⟩ := List.pairwise_cons.mp hapart
      rw [pathInto]
      rcases List.mem_cons.mp hmem with rfl | hmem
      · rw [if_pos (by rw [hnamed, hcovers]; rfl)]
      · have hnot : m.covers offset = false := by
          cases hc : m.covers offset with
          | false => rfl
          | true => exact absurd ⟨hc, hcovers⟩ (hm n hmem offset)
        rw [if_neg (by simp [hnot]), ih hmem hms]

/-- **The way down passes every node that covers the offset**, unless it stands below a keyword; by
    induction on its place. -/
theorem Place.suffix_pathFrom (hroot : Nested root) (h : Place root n above)
    (hnamed : ∀ m ∈ n :: above, m.kind.isNamed = true) (hcovers : n.covers offset = true) :
    n :: above <:+ pathFrom offset root := by
  suffices heq : pathFrom offset root = pathInto offset n.children ++ n :: above by
    rw [heq]
    exact List.suffix_append _ _
  induction h with
  | root => exact pathFrom_eq offset root
  | @child n p above h hn ih =>
      obtain ⟨hnamedn, hnameds⟩ := List.forall_mem_cons.mp hnamed
      have hp := hroot.inside (.child h hn) offset hcovers
      rw [ih hnameds hp, pathInto_eq hn hnamedn hcovers (hroot.apart h), pathFrom_eq,
        List.append_assoc, List.singleton_append]

/-- What the way down passes has a place, and covers the offset unless it is the root. -/
theorem place_of_suffix_pathFrom (h : n :: above <:+ pathFrom offset root) :
    Place root n above ∧ (above = [] ∨ n.covers offset = true) := by
  have hroot : Place root root [] := .root
  obtain ⟨m, rest, hpath, hplace⟩ := place_of_pathFrom offset hroot
  rw [List.append_nil] at hpath
  refine ⟨hplace.suffix (hpath ▸ h), ?_⟩
  rw [pathFrom_eq, List.suffix_concat_iff] at h
  rcases h with h | ⟨between, heq, hbetween⟩
  · exact absurd h (List.cons_ne_nil _ _)
  · cases between with
    | nil =>
        obtain ⟨-, rfl⟩ := List.cons.inj heq
        exact .inl rfl
    | cons b bs =>
        obtain ⟨rfl, -⟩ := List.cons.inj heq
        exact .inr (covers_of_mem_pathInto (hbetween.subset List.mem_cons_self))

/-! ## The way up -/

/-- **The first method on the way up is the one that all others on it stand above**; by induction on
    the way. -/
theorem nearestMethod?_eq_some_iff {ns : List Node} {method : Site} :
    nearestMethod? ns = some method ↔
      method.node :: method.above <:+ ns ∧ method.node.kind.isMethod = true
      ∧ ∀ other : Site, other.node :: other.above <:+ ns → other.node.kind.isMethod = true →
        other.node :: other.above <:+ method.node :: method.above := by
  induction ns with
  | nil =>
      constructor
      · intro h
        exact nomatch h
      · rintro ⟨h, -, -⟩
        exact absurd (List.suffix_nil.mp h) (List.cons_ne_nil _ _)
  | cons n above ih =>
      rw [nearestMethod?]
      split
      · rename_i hkind
        constructor
        · intro h
          obtain rfl := Option.some.inj h
          exact ⟨List.suffix_refl _, hkind, fun other h _ => h⟩
        · rintro ⟨h, -, hall⟩
          have heq := h.eq_of_length_le (hall ⟨n, above⟩ (List.suffix_refl _) hkind).length_le
          obtain ⟨node, rest⟩ := method
          obtain ⟨rfl, rfl⟩ := List.cons.inj heq
          rfl
      · rename_i hkind
        -- a method on the way stands above the node that is none
        have hup (site : Site) : site.node.kind.isMethod = true →
            (site.node :: site.above <:+ n :: above ↔ site.node :: site.above <:+ above) := by
          intro hmethod
          rw [List.suffix_cons_iff]
          refine or_iff_right fun heq => ?_
          obtain ⟨rfl, -⟩ := List.cons.inj heq
          exact hkind hmethod
        rw [ih]
        constructor
        · rintro ⟨h, hmethod, hall⟩
          exact ⟨(hup method hmethod).mpr h, hmethod,
            fun other ho hm => hall other ((hup other hm).mp ho) hm⟩
        · rintro ⟨h, hmethod, hall⟩
          exact ⟨(hup method hmethod).mp h, hmethod,
            fun other ho hm => hall other ((hup other hm).mpr ho) hm⟩

/-! ## The smallest method around an offset -/

/-- A method of a tree covers an offset. -/
structure Around (root : Node) (offset : Nat) (method : Site) : Prop where
  /-- It stands in the tree. -/
  place : Place root method.node method.above
  /-- It is a method. -/
  isMethod : method.node.kind.isMethod = true
  /-- It covers the offset. -/
  covers : method.node.covers offset = true

/-- A method is the smallest one of a tree that covers an offset. -/
structure Smallest (root : Node) (offset : Nat) (method : Site) : Prop
    extends Around root offset method where
  /-- Every method around the offset begins no later and ends no earlier. -/
  within : ∀ other, Around root offset other →
    other.node.start ≤ method.node.start ∧ method.node.stop ≤ other.node.stop
  /-- Every method around the offset is it or stands above it. -/
  below : ∀ other, Around root offset other →
    other.node :: other.above <:+ method.node :: method.above

/-- The methods around an offset are those on the way down to it. -/
theorem around_iff (hroot : Nested root) {method : Site} : Around root offset method ↔
    method.node :: method.above <:+ pathFrom offset root ∧ method.node.kind.isMethod = true := by
  constructor
  · intro h
    refine ⟨h.place.suffix_pathFrom hroot ?_ h.covers, h.isMethod⟩
    exact List.forall_mem_cons.mpr
      ⟨Kind.isNamed_of_isMethod h.isMethod, hroot.named h.place h.isMethod⟩
  · rintro ⟨h, hmethod⟩
    obtain ⟨hplace, hcovers⟩ := place_of_suffix_pathFrom h
    refine ⟨hplace, hmethod, hcovers.resolve_left fun hnil => ?_⟩
    rw [hnil] at hplace
    cases hplace with
    | root => exact absurd hmethod (by simp [hroot.program])

/-- A node that stands in another one covers no more than that. -/
theorem Place.covers_of_suffix (hroot : Nested root) (h : Place root n above) {m : Node}
    (hm : m :: rest <:+ n :: above) (hcovers : n.covers offset = true) : m.covers offset = true := by
  induction h with
  | root =>
      obtain h | h := List.suffix_cons_iff.mp hm
      · exact (List.cons.inj h).1 ▸ hcovers
      · exact absurd (List.suffix_nil.mp h) (List.cons_ne_nil _ _)
  | child h hn ih =>
      obtain h' | h' := List.suffix_cons_iff.mp hm
      · exact (List.cons.inj h').1 ▸ hcovers
      · exact ih h' (hroot.inside (.child h hn) offset hcovers)

/-- **The first method on the way up from an offset is the smallest one around it.** -/
theorem smallest_iff_nearest (hroot : Nested root) {method : Site} :
    Smallest root offset method ↔ nearestMethod? (pathFrom offset root) = some method := by
  rw [nearestMethod?_eq_some_iff]
  constructor
  · intro h
    obtain ⟨hpath, hmethod⟩ := (around_iff hroot).mp h.toAround
    exact ⟨hpath, hmethod, fun other ho hm => h.below other ((around_iff hroot).mpr ⟨ho, hm⟩)⟩
  · rintro ⟨hpath, hmethod, hall⟩
    have haround : Around root offset method := (around_iff hroot).mpr ⟨hpath, hmethod⟩
    have hbelow (other : Site) (h : Around root offset other) :
        other.node :: other.above <:+ method.node :: method.above := by
      obtain ⟨ho, hm⟩ := (around_iff hroot).mp h
      exact hall other ho hm
    refine ⟨haround, fun other h => ?_, hbelow⟩
    -- the first and the last byte of the method are in every method above it
    obtain ⟨hstart, hstop⟩ := Node.covers_iff.mp haround.covers
    have hup (offset : Nat) (hcovers : method.node.covers offset = true) :
        other.node.covers offset = true :=
      haround.place.covers_of_suffix hroot (hbelow other h) hcovers
    have hfirst := hup method.node.start (Node.covers_iff.mpr ⟨Nat.le_refl _, by omega⟩)
    have hlast := hup (method.node.stop - 1) (Node.covers_iff.mpr ⟨by omega, by omega⟩)
    rw [Node.covers_iff] at hfirst hlast
    omega

/-- There is one smallest method at most around two offsets that it covers both. -/
theorem Smallest.eq_of_covers {first second : Nat} {m k : Site} (hm : Smallest root first m)
    (hk : Smallest root second k) (hmc : m.node.covers second = true)
    (hkc : k.node.covers first = true) : m = k := by
  have hkm := hm.below k ⟨hk.place, hk.isMethod, hkc⟩
  have hmk := hk.below m ⟨hm.place, hm.isMethod, hmc⟩
  have heq := hmk.eq_of_length_le hkm.length_le
  obtain ⟨node, rest⟩ := m
  obtain ⟨rfl, rfl⟩ := List.cons.inj heq
  rfl

/-- Where there is a method around an offset, one of them is the smallest. -/
theorem Around.exists_smallest (hroot : Nested root) {method : Site}
    (h : Around root offset method) : ∃ smallest, Smallest root offset smallest := by
  obtain ⟨hpath, hmethod⟩ := (around_iff hroot).mp h
  cases hnearest : nearestMethod? (pathFrom offset root) with
  | some smallest => exact ⟨smallest, (smallest_iff_nearest hroot).mpr hnearest⟩
  | none =>
      generalize pathFrom offset root = ns at hpath hnearest
      induction ns with
      | nil => exact absurd (List.suffix_nil.mp hpath) (List.cons_ne_nil _ _)
      | cons n above ih =>
          rw [nearestMethod?] at hnearest
          split at hnearest
          · exact absurd hnearest (Option.some_ne_none _)
          · rename_i hkind
            rcases List.suffix_cons_iff.mp hpath with heq | hpath
            · obtain ⟨rfl, -⟩ := List.cons.inj heq
              exact absurd hmethod hkind
            · exact ih hpath hnearest

/-! ## Cursors -/

/-- The byte that a cursor at an offset of a text belongs to: at the end of the text the last one. -/
def byteAt (length offset : Nat) : Nat := if offset = length then offset - 1 else offset

/-- A method is the innermost one around a cursor at an offset of a text of the given length. -/
def InnermostAt (length : Nat) (root : Node) (offset : Nat) (method : Site) : Prop :=
  offset ≤ length ∧ Smallest root (byteAt length offset) method

/-- The innermost method around a cursor is the one that is found by going down and up. -/
theorem innermostAt_iff (hroot : Nested root) {length : Nat} {method : Site} :
    InnermostAt length root offset method ↔
      innermostMethod? length root offset = some method := by
  rw [InnermostAt, smallest_iff_nearest hroot, innermostMethod?, siteAt]
  split
  · rename_i hlt
    constructor
    · rintro ⟨hle, -⟩
      omega
    · intro h
      exact absurd h.symm (Option.some_ne_none _)
  · rename_i hle
    rw [and_iff_right (Nat.le_of_not_lt hle)]
    show nearestMethod? (pathFrom (byteAt length offset) root) = some method
      ↔ (siteOf? (pathFrom (byteAt length offset) root)).bind
          (fun site => nearestMethod? (site.node :: site.above)) = some method
    cases pathFrom (byteAt length offset) root with
    | nil => exact Iff.rfl
    | cons n above => exact Iff.rfl

/-- **In a tree no deeper than the bound, the method that is located is the innermost one around the
    cursor.** -/
theorem enclosingMethod?_innermost (hroot : Nested root) {depth : Nat} (hdepth : root.depth ≤ depth)
    {m : EnclosingMethod} :
    ((syntaxView source root).nodeAt offset).bind ((syntaxView source root).enclosingMethod? depth)
        = some m ↔
      ∃ method, InnermostAt (Text.byteLength source) root offset method
        ∧ methodAt? source method = some m := by
  simp only [innermostAt_iff hroot, innermostMethod?, Option.bind_eq_some_iff]
  constructor
  · rintro ⟨site, hsite, h⟩
    obtain ⟨method, hnearest, -, hat⟩ := (enclosingMethod?_eq_some_iff depth).mp h
    exact ⟨method, ⟨site, hsite, hnearest⟩, hat⟩
  · rintro ⟨method, ⟨site, hsite, hnearest⟩, hat⟩
    refine ⟨site, hsite, (enclosingMethod?_eq_some_iff depth).mpr ⟨method, hnearest, ?_, hat⟩⟩
    have hle := (place_of_siteAt hsite).length_add_depth_le
    omega

/-- In a tree no deeper than the bound, no method is located exactly if none is around the cursor or
    the cursor is past the end of the text. -/
theorem enclosingMethod?_eq_none_iff (hroot : Nested root) {depth : Nat}
    (hdepth : root.depth ≤ depth) :
    ((syntaxView source root).nodeAt offset).bind ((syntaxView source root).enclosingMethod? depth)
        = none ↔
      Text.byteLength source < offset
        ∨ ∀ method, ¬ Around root (byteAt (Text.byteLength source) offset) method := by
  rw [Option.eq_none_iff_forall_ne_some]
  simp only [ne_eq, enclosingMethod?_innermost hroot hdepth]
  constructor
  · intro h
    refine (Nat.lt_or_ge _ offset).imp_right fun hle method haround => ?_
    obtain ⟨smallest, hsmallest⟩ := haround.exists_smallest hroot
    exact h _ ⟨smallest, ⟨hle, hsmallest⟩, by rw [methodAt?, if_pos hsmallest.isMethod]⟩
  · rintro h m ⟨method, ⟨hle, hsmallest⟩, -⟩
    rcases h with hlt | hnone
    · omega
    · exact hnone method hsmallest.toAround

end BeanMapper.Java
