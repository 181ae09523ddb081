import BeanMapper.Proofs.Index.Visibility

/-! # Growth — which lookups one more declaration moves

    A lookup is decided by the longest suffix that the written name shares with
    a declared one.  So one more declaration moves the lookups of those names
    only with which it shares a longer suffix than every declaration before it:

    * `TakesOver` is this condition, said of the names alone;
    * `Holds.position?_of_takesOver` and `Holds.position?_of_not_takesOver` say
      where a lookup leads after a registration, in either case;
    * `Holds.lookup_extend_of_declared` follows for any number of registrations:
      what goes by a declared name, in full or as a suffix, stays where it is;
    * `Holds.get?_of_longestShared` says what is found without positions, and
      `Holds.get?_exchange` that neighbours which share no suffix may be
      exchanged. -/

namespace BeanMapper

namespace TypeIndex

/-- Behind the declarations `ds`, one more declaration takes a name over: it shares a suffix with
    the name that is longer than every suffix that one of `ds` shares with it. -/
def TakesOver (ds : List Declaration) (d : Declaration) (ty : TypeName) : Prop :=
  ∃ k ∈ ty.suffixes, k ∈ d.typeName.suffixes
    ∧ ∀ l ∈ ty.suffixes, ∀ e ∈ ds, l ∈ e.typeName.suffixes → l.name.length < k.name.length

variable {index other : TypeIndex} {ds es : List Declaration} {d e : Declaration}
  {ty k : TypeName}

/-- A name that is declared, in full or as a suffix, is taken over by nothing that comes later. -/
theorem not_takesOver_of_declared (he : e ∈ ds) (hty : ty ∈ e.typeName.suffixes) :
    ¬ TakesOver ds d ty := by
  rintro ⟨k, hk, -, hlonger⟩
  have hlt := hlonger ty (TypeName.self_mem_suffixes ty) e he hty
  rcases TypeName.length_of_mem_suffixes hk with rfl | hshorter
  · exact absurd hlt (Nat.lt_irrefl _)
  · exact absurd hlt (Nat.lt_asymm hshorter)

/-- What does not take a name over leaves its longest shared suffix. -/
theorem LongestShared.append_of_not_takesOver (h : LongestShared ds ty k)
    (hnot : ¬ TakesOver ds d ty) : LongestShared (ds ++ [d]) ty k where
  own := h.own
  shared := by
    obtain ⟨e, he, hk⟩ := h.shared
    exact ⟨e, List.mem_append_left _ he, hk⟩
  longest := by
    intro l hl e he hle
    rcases List.mem_append.mp he with hold | hnew
    · exact h.longest l hl e hold hle
    · obtain rfl := List.mem_singleton.mp hnew
      -- a longer suffix would be longer than all that were shared before
      refine Nat.le_of_not_lt fun hlong => hnot ⟨l, hl, hle, fun m hm e he hme => ?_⟩
      exact Nat.lt_of_le_of_lt (h.longest m hm e he hme) hlong

/-! ## One registration -/

namespace Holds

/-- **A name that is taken over leads to the new declaration.** -/
theorem position?_of_takesOver (h : Holds index ds) (hover : TakesOver ds d ty) :
    (index.register d).position? ty = some ds.length := by
  have hnew := h.register d
  have hd : d ∈ ds ++ [d] := List.mem_append_right ds (List.mem_singleton_self d)
  obtain ⟨k, hk, hkd, hlonger⟩ := hover
  cases hposition : (index.register d).position? ty with
  | none =>
      have hnone := hnew.position?_eq_none_iff.mp hposition
      exact absurd (TypeName.exists_shared_suffix_iff.mp ⟨k, hkd, hk⟩) (hnone d hd)
  | some i =>
      obtain ⟨m, hlongest, hfirst⟩ := (hnew.position?_eq_some_iff i).mp hposition
      rcases FirstWith.append_iff.mp hfirst with hold | ⟨rfl, -, -⟩
      · -- the suffix that decides would be one of an earlier name, and so too short
        obtain ⟨e, he, hme⟩ := hold.bears
        have hlt := hlonger m hlongest.own e (List.mem_of_getElem? he) hme
        exact absurd (hlongest.longest k hk d hd hkd) (Nat.not_le.mpr hlt)
      · rfl

/-- **A name that is not taken over leads where it led before.** -/
theorem position?_of_not_takesOver (h : Holds index ds) (hnot : ¬ TakesOver ds d ty) :
    (index.register d).position? ty = index.position? ty := by
  have hnew := h.register d
  cases hposition : index.position? ty with
  | some i =>
      obtain ⟨k, hlongest, hfirst⟩ := (h.position?_eq_some_iff i).mp hposition
      exact (hnew.position?_eq_some_iff i).mpr
        ⟨k, hlongest.append_of_not_takesOver hnot, hfirst.append [d]⟩
  | none =>
      have hnone := h.position?_eq_none_iff.mp hposition
      refine hnew.position?_eq_none_iff.mpr fun e he heq => ?_
      rcases List.mem_append.mp he with hold | hlast
      · exact hnone e hold heq
      · obtain rfl := List.mem_singleton.mp hlast
        -- nothing was shared before, so any shared suffix takes over
        obtain ⟨k, hke, hk⟩ := TypeName.exists_shared_suffix_iff.mpr heq
        refine hnot ⟨k, hk, hke, fun l hl e he hle => ?_⟩
        exact absurd (TypeName.exists_shared_suffix_iff.mp ⟨l, hle, hl⟩) (hnone e he)

/-- The exact effect of one registration on a lookup. -/
theorem lookup_register (h : Holds index ds) (d : Declaration) (ty : TypeName) :
    (TakesOver ds d ty →
      (index.register d).position? ty = some ds.length ∧ (index.register d).get? ty = some d)
    ∧ (¬ TakesOver ds d ty →
      (index.register d).position? ty = index.position? ty
        ∧ (index.register d).get? ty = index.get? ty) := by
  constructor
  · intro hover
    have hposition := h.position?_of_takesOver hover
    refine ⟨hposition, ((h.register d).get?_eq_some_iff d).mpr ⟨_, hposition, ?_⟩⟩
    exact List.getElem?_concat_length
  · intro hnot
    have hposition := h.position?_of_not_takesOver hnot
    exact ⟨hposition, h.get?_register_of_position? hposition⟩

/-! ## Any number of registrations -/

/-- **What goes by a declared name stays where it is**, however many declarations come later; by
    induction on them. -/
theorem lookup_extend_of_declared (h : Holds index ds) (he : e ∈ ds)
    (hty : ty ∈ e.typeName.suffixes) (es : List Declaration) :
    (index.extend es).position? ty = index.position? ty
    ∧ (index.extend es).get? ty = index.get? ty := by
  induction es generalizing index ds with
  | nil => exact ⟨rfl, rfl⟩
  | cons d es ih =>
      have hstep := (h.lookup_register d ty).2 (not_takesOver_of_declared he hty)
      have hrest := ih (h.register d) (List.mem_append_left [d] he)
      exact ⟨hrest.1.trans hstep.1, hrest.2.trans hstep.2⟩

/-! ## Two registrations in either order -/

/-- A lookup finds the first declaration that has the longest shared suffix. -/
theorem get?_of_longestShared (h : Holds index ds) (hk : LongestShared ds ty k) :
    index.get? ty = firstNamed? ds k := by
  obtain ⟨d, hd, hkd⟩ := hk.shared
  obtain ⟨i, hfirst⟩ := FirstWith.exists_of_mem hd hkd
  rw [firstNamed?_eq hfirst, get?, (h.position?_eq_some_iff i).mpr ⟨k, hk, hfirst⟩,
    Option.bind_some, h.getElem?_eq]

end Holds

/-- The longest shared suffix does not depend on the order of the declarations. -/
theorem LongestShared.congr (h : LongestShared ds ty k) (hmem : ∀ e, e ∈ ds ↔ e ∈ es) :
    LongestShared es ty k where
  own := h.own
  shared := by
    obtain ⟨e, he, hk⟩ := h.shared
    exact ⟨e, (hmem e).mp he, hk⟩
  longest l hl e he hle := h.longest l hl e ((hmem e).mpr he) hle

/-- Of two neighbours without a common suffix at most one goes by a name, so their order does not
    count for the first declaration with it. -/
theorem firstNamed?_exchange (before rest : List Declaration)
    (hapart : d.typeName.simpleName ≠ e.typeName.simpleName) (k : TypeName) :
    firstNamed? (before ++ d :: e :: rest) k = firstNamed? (before ++ e :: d :: rest) k := by
  rw [firstNamed?, firstNamed?, List.find?_append, List.find?_append]
  by_cases hd : k ∈ d.typeName.suffixes
  · have he : k ∉ e.typeName.suffixes := fun he =>
      hapart (TypeName.exists_shared_suffix_iff.mp ⟨k, hd, he⟩)
    simp only [List.find?_cons, decide_eq_true hd, decide_eq_false he]
  · simp only [List.find?_cons, decide_eq_false hd]

/-- **Neighbours with different last segments may be exchanged** without a change to what any name
    leads to. -/
theorem Holds.get?_exchange {before rest : List Declaration}
    (h : Holds index (before ++ d :: e :: rest)) (h' : Holds other (before ++ e :: d :: rest))
    (hapart : d.typeName.simpleName ≠ e.typeName.simpleName) (ty : TypeName) :
    index.get? ty = other.get? ty := by
  have hmem : ∀ x, x ∈ before ++ d :: e :: rest ↔ x ∈ before ++ e :: d :: rest :=
    fun x => ((List.Perm.swap e d rest).append_left before).mem_iff
  cases hposition : index.position? ty with
  | some i =>
      obtain ⟨k, hlongest, -⟩ := (h.position?_eq_some_iff i).mp hposition
      rw [h.get?_of_longestShared hlongest, h'.get?_of_longestShared (hlongest.congr hmem),
        firstNamed?_exchange before rest hapart]
  | none =>
      have hnone := h.position?_eq_none_iff.mp hposition
      rw [h.get?_eq_none_iff.mpr hposition, eq_comm, h'.get?_eq_none_iff,
        h'.position?_eq_none_iff]
      exact fun x hx => hnone x ((hmem x).mpr hx)

end TypeIndex

end BeanMapper
