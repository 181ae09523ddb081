import BeanMapper.TypeIndex
import BeanMapper.Proofs.Names.Suffixes

/-! # Registration — what an index holds after any run

    Declarations come into an index one at a time or many at once.  However
    they are grouped, only their order counts: the run is the registration of
    one list, its history.

    * `FirstWith` is the rule that the index implements: the first declaration
      whose name has a suffix keeps that suffix;
    * `Holds` is the representation invariant: the declarations stand in the
      order of the history and every name leads to its `FirstWith` position;
    * `Holds.register` keeps the invariant over one registration and
      `holds_run` over every run. -/

namespace BeanMapper

/-- One step by which declarations come into an index. -/
inductive Registration where
  /-- One declaration is registered. -/
  | one (d : Declaration)
  /-- Some declarations are registered in their order. -/
  | many (ds : List Declaration)

/-- The declarations of a step in their order. -/
def Registration.declarations : Registration → List Declaration
  | .one d => [d]
  | .many ds => ds

/-- The declarations of all steps in their order. -/
def Registration.history (rs : List Registration) : List Declaration :=
  rs.flatMap Registration.declarations

namespace TypeIndex

/-- The index after one more step. -/
def apply (index : TypeIndex) : Registration → TypeIndex
  | .one d => index.register d
  | .many ds => index.extend ds

/-- The index after the given steps, from the index of no declaration on. -/
def run (rs : List Registration) : TypeIndex := rs.foldl apply empty

/-- A step registers its declarations one after the other. -/
theorem apply_eq_extend (index : TypeIndex) (r : Registration) :
    index.apply r = index.extend r.declarations := by
  cases r with
  | one d => rfl
  | many ds => rfl

/-- Registering two lists is registering the one list they make up. -/
theorem extend_append (index : TypeIndex) (ds es : List Declaration) :
    index.extend (ds ++ es) = (index.extend ds).extend es := List.foldl_append

/-- The grouping of a run does not count, only its history. -/
theorem run_eq_extend_history (rs : List Registration) :
    run rs = empty.extend (Registration.history rs) := by
  have general : ∀ index : TypeIndex,
      rs.foldl apply index = index.extend (Registration.history rs) := by
    induction rs with
    | nil => intro index; rfl
    | cons r rs ih =>
        intro index
        rw [List.foldl_cons, ih, apply_eq_extend, ← extend_append]
        rfl
  exact general empty

/-! ## The rule of the first registration -/

/-- The declaration at a position is the first whose name has the suffix `k`. -/
structure FirstWith (ds : List Declaration) (k : TypeName) (i : Nat) : Prop where
  /-- The declaration there has the suffix. -/
  bears : ∃ d, ds[i]? = some d ∧ k ∈ d.typeName.suffixes
  /-- None before it has the suffix. -/
  first : ∀ j < i, ∀ e, ds[j]? = some e → k ∉ e.typeName.suffixes

namespace FirstWith

variable {ds : List Declaration} {k : TypeName} {i j : Nat}

/-- There is one first position at most. -/
theorem unique (hi : FirstWith ds k i) (hj : FirstWith ds k j) : i = j := by
  obtain ⟨d, hd, hkd⟩ := hi.bears
  obtain ⟨e, he, hke⟩ := hj.bears
  rcases Nat.lt_trichotomy i j with hlt | heq | hgt
  · exact absurd hkd (hj.first i hlt d hd)
  · exact heq
  · exact absurd hke (hi.first j hgt e he)

/-- A first position is that of a declaration. -/
theorem lt_length (h : FirstWith ds k i) : i < ds.length := by
  obtain ⟨d, hd, -⟩ := h.bears
  exact (List.getElem?_eq_some_iff.mp hd).1

/-- A suffix that some declaration has, some declaration has first. -/
theorem exists_of_mem {d : Declaration} (hd : d ∈ ds) (hk : k ∈ d.typeName.suffixes) :
    ∃ i, FirstWith ds k i := by
  induction ds with
  | nil => exact nomatch hd
  | cons e ds ih =>
      by_cases hke : k ∈ e.typeName.suffixes
      · exact ⟨0, ⟨e, rfl, hke⟩, fun j hj => absurd hj (Nat.not_lt_zero j)⟩
      · have hd' : d ∈ ds := by
          rcases List.mem_cons.mp hd with rfl | hmem
          · exact absurd hk hke
          · exact hmem
        obtain ⟨i, ⟨d', hget, hkd'⟩, hfirst⟩ := ih hd'
        refine ⟨i + 1, ⟨d', hget, hkd'⟩, ?_⟩
        intro j hj e' he'
        cases j with
        | zero =>
            obtain rfl : e = e' := Option.some.inj he'
            exact hke
        | succ j => exact hfirst j (Nat.lt_of_succ_lt_succ hj) e' he'

/-- What comes behind changes no first position. -/
theorem append (h : FirstWith ds k i) (es : List Declaration) : FirstWith (ds ++ es) k i := by
  obtain ⟨d, hd, hkd⟩ := h.bears
  refine ⟨⟨d, ?_, hkd⟩, ?_⟩
  · rwa [List.getElem?_append_left h.lt_length]
  · intro j hj e he
    refine h.first j hj e ?_
    rwa [List.getElem?_append_left (Nat.lt_trans hj h.lt_length)] at he

/-- One more declaration at the end takes the first position only of a suffix that none had. -/
theorem append_iff {d : Declaration} :
    FirstWith (ds ++ [d]) k i ↔
      FirstWith ds k i
        ∨ i = ds.length ∧ k ∈ d.typeName.suffixes ∧ ∀ e ∈ ds, k ∉ e.typeName.suffixes := by
  constructor
  · rintro ⟨⟨d', hget, hk⟩, hfirst⟩
    rcases Nat.lt_or_ge i ds.length with hlt | hge
    · refine Or.inl ⟨⟨d', ?_, hk⟩, ?_⟩
      · rwa [List.getElem?_append_left hlt] at hget
      · intro j hj e he
        refine hfirst j hj e ?_
        rwa [List.getElem?_append_left (Nat.lt_trans hj hlt)]
    · have hi : i = ds.length := by
        have hlen := (List.getElem?_eq_some_iff.mp hget).1
        rw [List.length_append, List.length_singleton] at hlen
        omega
      subst hi
      rw [List.getElem?_concat_length] at hget
      obtain rfl : d = d' := Option.some.inj hget
      refine Or.inr ⟨rfl, hk, ?_⟩
      intro e he
      obtain ⟨j, hj, hej⟩ := List.getElem_of_mem he
      refine hfirst j hj e ?_
      rw [List.getElem?_append_left hj, List.getElem?_eq_getElem hj, hej]
  · rintro (h | ⟨rfl, hk, hnone⟩)
    · exact h.append [d]
    · refine ⟨⟨d, List.getElem?_concat_length, hk⟩, ?_⟩
      intro j hj e he
      rw [List.getElem?_append_left hj] at he
      exact hnone e (List.mem_of_getElem? he)

end FirstWith

/-! ## The names of an index -/

/-- A name that is taken stays with its holder; a free one is bound. -/
theorem lookup_claim (n : Nat) (byName : List (TypeName × Nat)) (name k : TypeName) :
    (claim n byName name).lookup k
      = (byName.lookup k).or (if k = name then some n else none) := by
  unfold claim
  by_cases htaken : (byName.lookup name).isSome = true
  · rw [if_pos htaken]
    by_cases hk : k = name
    · subst hk
      obtain ⟨i, hi⟩ := Option.isSome_iff_exists.mp htaken
      rw [hi, Option.some_or]
    · rw [if_neg hk, Option.or_none]
  · rw [if_neg htaken, List.lookup_cons]
    by_cases hk : k = name
    · subst hk
      have hfree : byName.lookup k = none := Option.not_isSome_iff_eq_none.mp htaken
      rw [hfree, Option.none_or, if_pos rfl, beq_self_eq_true]
    · rw [if_neg hk, Option.or_none, beq_eq_false_iff_ne.mpr hk]

/-- Binding many names binds the free ones among them and no other. -/
theorem lookup_foldl_claim (n : Nat) (names : List TypeName) (byName : List (TypeName × Nat))
    (k : TypeName) :
    (names.foldl (claim n) byName).lookup k
      = (byName.lookup k).or (if k ∈ names then some n else none) := by
  induction names generalizing byName with
  | nil => rw [List.foldl_nil, if_neg (List.not_mem_nil), Option.or_none]
  | cons name names ih =>
      rw [List.foldl_cons, ih, lookup_claim, Option.or_assoc]
      by_cases hk : k = name
      · rw [if_pos hk, if_pos (List.mem_cons.mpr (Or.inl hk)), Option.some_or]
      · have hmem : (k ∈ name :: names) = (k ∈ names) := by
          rw [List.mem_cons, eq_false hk, false_or]
        rw [if_neg hk, Option.none_or]
        simp only [hmem]

/-- Every binding is an old one or leads to the new position. -/
theorem mem_foldl_claim {n : Nat} {names : List TypeName} {byName : List (TypeName × Nat)}
    {entry : TypeName × Nat} (h : entry ∈ names.foldl (claim n) byName) :
    entry ∈ byName ∨ entry.2 = n := by
  induction names generalizing byName with
  | nil => exact Or.inl h
  | cons name names ih =>
      rw [List.foldl_cons] at h
      rcases ih h with hmem | hnew
      · unfold claim at hmem
        split at hmem
        · exact Or.inl hmem
        · rcases List.mem_cons.mp hmem with rfl | hold
          · exact Or.inr rfl
          · exact Or.inl hold
      · exact Or.inr hnew

/-- After a registration a name leads where it led before, or else to the new declaration if its
    name has that suffix. -/
theorem holder?_register (index : TypeIndex) (d : Declaration) (k : TypeName) :
    (index.register d).holder? k
      = (index.holder? k).or
          (if k ∈ d.typeName.suffixes then some index.declarations.size else none) :=
  lookup_foldl_claim index.declarations.size d.typeName.suffixes index.byName k

/-! ## The invariant -/

/-- The index holds the declarations `ds`, registered in this order. -/
structure Holds (index : TypeIndex) (ds : List Declaration) : Prop where
  /-- The declarations stand in the order of their registration. -/
  listed : index.declarations.toList = ds
  /-- A name leads to the first declaration whose name has it as a suffix. -/
  held : ∀ k i, index.holder? k = some i ↔ FirstWith ds k i
  /-- No name leads past the declarations. -/
  inRange : ∀ entry ∈ index.byName, entry.2 < index.declarations.size

namespace Holds

variable {index : TypeIndex} {ds : List Declaration}

/-- The number of positions is that of the declarations. -/
theorem size_eq (h : Holds index ds) : index.declarations.size = ds.length := by
  rw [← h.listed, Array.length_toList]

/-- What stands at a position. -/
theorem getElem?_eq (h : Holds index ds) (i : Nat) : index.declarations[i]? = ds[i]? := by
  rw [← h.listed, Array.getElem?_toList]

/-- A name is free exactly if no declaration has it as a suffix. -/
theorem holder?_eq_none_iff (h : Holds index ds) (k : TypeName) :
    index.holder? k = none ↔ ∀ d ∈ ds, k ∉ d.typeName.suffixes := by
  constructor
  · intro hnone d hd hk
    obtain ⟨i, hi⟩ := FirstWith.exists_of_mem hd hk
    rw [(h.held k i).mpr hi] at hnone
    exact nomatch hnone
  · intro hfree
    cases hk : index.holder? k with
    | none => rfl
    | some i =>
        obtain ⟨d, hd, hkd⟩ := ((h.held k i).mp hk).bears
        exact absurd hkd (hfree d (List.mem_of_getElem? hd))

/-- The index of no declaration holds none. -/
theorem empty : Holds TypeIndex.empty [] where
  listed := rfl
  held := by
    intro k i
    constructor
    · intro h; exact nomatch h
    · intro h; exact absurd h.lt_length (Nat.not_lt_zero i)
  inRange := by intro entry h; exact nomatch h

/-- **One registration keeps the invariant**, with the new declaration at the end. -/
theorem register (h : Holds index ds) (d : Declaration) :
    Holds (index.register d) (ds ++ [d]) where
  listed := by
    show (index.declarations.push d).toList = ds ++ [d]
    rw [Array.toList_push, h.listed]
  held := by
    intro k i
    rw [holder?_register, FirstWith.append_iff, h.size_eq]
    cases hk : index.holder? k with
    | some j =>
        -- the name is taken: it keeps its holder, and the new declaration is not the first
        have hj : FirstWith ds k j := (h.held k j).mp hk
        rw [Option.some_or]
        constructor
        · intro heq
          obtain rfl : j = i := Option.some.inj heq
          exact Or.inl hj
        · rintro (hi | ⟨-, -, hnone⟩)
          · rw [hj.unique hi]
          · obtain ⟨e, he, hke⟩ := hj.bears
            exact absurd hke (hnone e (List.mem_of_getElem? he))
    | none =>
        have hnone : ∀ e ∈ ds, k ∉ e.typeName.suffixes := (h.holder?_eq_none_iff k).mp hk
        rw [Option.none_or]
        constructor
        · intro heq
          split at heq
          · next hmem => exact Or.inr ⟨(Option.some.inj heq).symm, hmem, hnone⟩
          · exact nomatch heq
        · rintro (hi | ⟨rfl, hmem, -⟩)
          · obtain ⟨e, he, hke⟩ := hi.bears
            exact absurd hke (hnone e (List.mem_of_getElem? he))
          · rw [if_pos hmem]
  inRange := by
    intro entry hentry
    have hsize : (index.register d).declarations.size = index.declarations.size + 1 :=
      Array.size_push d
    rw [hsize]
    rcases mem_foldl_claim hentry with hold | hnew
    · exact Nat.lt_succ_of_lt (h.inRange entry hold)
    · rw [hnew]
      exact Nat.lt_succ_self _

/-- Registering a list keeps the invariant, with the list at the end. -/
theorem extend (h : Holds index ds) (es : List Declaration) :
    Holds (index.extend es) (ds ++ es) := by
  induction es generalizing index ds with
  | nil =>
      rw [List.append_nil]
      exact h
  | cons e es ih =>
      have hstep := ih (h.register e)
      rw [List.append_assoc, List.singleton_append] at hstep
      exact hstep

end Holds

/-- **Every run keeps the invariant**: the index holds the history of the run. -/
theorem holds_run (rs : List Registration) : Holds (run rs) (Registration.history rs) := by
  have h := Holds.empty.extend (Registration.history rs)
  rw [List.nil_append, ← run_eq_extend_history] at h
  exact h

end TypeIndex

end BeanMapper
