import BeanMapper.Proofs.Index.Registration

/-! # Lookup — the longest shared suffix, and the first declaration with it

    A lookup walks the suffixes of the written name and the index was built
    from the suffixes of the declared names.  The two meet in one rule that
    mentions neither walk nor table:

    * `LongestShared` is the suffix that decides a lookup;
    * `position?_eq_some_iff` says which position a lookup finds;
    * `position?_eq_none_iff` says that a lookup fails only for want of a
      declaration with the same last segment;
    * `run_lookup_eq_reference` puts both together for every run. -/

namespace BeanMapper

/-- The first of some declarations that goes by a name, in full or as a suffix. -/
def firstNamed? (ds : List Declaration) (name : TypeName) : Option Declaration :=
  ds.find? fun e => decide (name ∈ e.typeName.suffixes)

/-- The first declaration with a name is found at its position. -/
theorem firstNamed?_eq {ds : List Declaration} {name : TypeName} {i : Nat}
    (h : TypeIndex.FirstWith ds name i) : firstNamed? ds name = ds[i]? := by
  have hlt := h.lt_length
  obtain ⟨e, he, hname⟩ := h.bears
  rw [he]
  refine List.find?_eq_some_iff_getElem.mpr ⟨decide_eq_true hname, i, hlt, ?_, ?_⟩
  · exact (List.getElem?_eq_some_iff.mp he).2
  · intro j hj
    have hnot := h.first j hj _ (List.getElem?_eq_getElem (Nat.lt_trans hj hlt))
    simpa using hnot

/-- The first declaration with a name is one of them and goes by the name. -/
theorem mem_of_firstNamed? {ds : List Declaration} {name : TypeName} {d : Declaration}
    (h : firstNamed? ds name = some d) : d ∈ ds ∧ name ∈ d.typeName.suffixes :=
  ⟨List.mem_of_find?_eq_some h, by simpa using List.find?_some h⟩

namespace TypeIndex

/-- The longest suffix of the name `ty` that the name of some declaration has as well. -/
structure LongestShared (ds : List Declaration) (ty k : TypeName) : Prop where
  /-- It is a suffix of the name. -/
  own : k ∈ ty.suffixes
  /-- It is a suffix of the name of a declaration. -/
  shared : ∃ d ∈ ds, k ∈ d.typeName.suffixes
  /-- No longer suffix of the name is one of the name of a declaration. -/
  longest : ∀ l ∈ ty.suffixes, ∀ d ∈ ds, l ∈ d.typeName.suffixes → l.name.length ≤ k.name.length

/-- A declared name is the longest suffix that it shares. -/
theorem LongestShared.of_declared {ds : List Declaration} {d : Declaration} (hd : d ∈ ds) :
    LongestShared ds d.typeName d.typeName where
  own := TypeName.self_mem_suffixes _
  shared := ⟨d, hd, TypeName.self_mem_suffixes _⟩
  longest := by
    intro l hl _ _ _
    rcases TypeName.length_of_mem_suffixes hl with rfl | hlt
    · exact Nat.le_refl _
    · exact Nat.le_of_lt hlt

namespace Holds

variable {index : TypeIndex} {ds : List Declaration} {ty : TypeName}

/-- **A lookup finds the first declaration with the longest shared suffix.** -/
theorem position?_eq_some_iff (h : Holds index ds) (i : Nat) :
    index.position? ty = some i ↔ ∃ k, LongestShared ds ty k ∧ FirstWith ds k i := by
  have hsorted := ty.suffixes_longest_first
  constructor
  · intro hfound
    obtain ⟨before, k, after, hsplit, hk, hbefore⟩ := List.findSome?_eq_some_iff.mp hfound
    have hfirst : FirstWith ds k i := (h.held k i).mp hk
    have hown : k ∈ ty.suffixes := by
      rw [hsplit]
      exact List.mem_append_right _ List.mem_cons_self
    obtain ⟨d, hd, hkd⟩ := hfirst.bears
    refine ⟨k, ⟨hown, ⟨d, List.mem_of_getElem? hd, hkd⟩, ?_⟩, hfirst⟩
    intro l hl e he hle
    rw [hsplit] at hl hsorted
    rcases List.mem_append.mp hl with hlong | hrest
    · -- a longer suffix was tried before and is no declaration's
      exact absurd hle ((h.holder?_eq_none_iff l).mp (hbefore l hlong) e he)
    · rcases List.mem_cons.mp hrest with rfl | hshort
      · exact Nat.le_refl _
      · have htail := (List.pairwise_append.mp hsorted).2.1
        exact Nat.le_of_lt ((List.pairwise_cons.mp htail).1 l hshort)
  · rintro ⟨k, hlongest, hfirst⟩
    obtain ⟨before, after, hsplit⟩ := List.append_of_mem hlongest.own
    refine List.findSome?_eq_some_iff.mpr
      ⟨before, k, after, hsplit, (h.held k i).mpr hfirst, ?_⟩
    intro l hl
    rw [h.holder?_eq_none_iff]
    intro e he hle
    have hown : l ∈ ty.suffixes := by
      rw [hsplit]
      exact List.mem_append_left _ hl
    rw [hsplit] at hsorted
    have hlt : k.name.length < l.name.length :=
      (List.pairwise_append.mp hsorted).2.2 l hl k List.mem_cons_self
    exact absurd (hlongest.longest l hown e he hle) (Nat.not_le.mpr hlt)

/-- **A lookup fails only where no declaration has the last segment of the name.** -/
theorem position?_eq_none_iff (h : Holds index ds) :
    index.position? ty = none ↔ ∀ d ∈ ds, d.typeName.simpleName ≠ ty.simpleName := by
  have hnone : index.position? ty = none ↔ ∀ k ∈ ty.suffixes, ∀ d ∈ ds, k ∉ d.typeName.suffixes := by
    rw [position?, List.findSome?_eq_none_iff]
    constructor
    · intro hall k hk
      exact (h.holder?_eq_none_iff k).mp (hall k hk)
    · intro hall k hk
      exact (h.holder?_eq_none_iff k).mpr (hall k hk)
  rw [hnone]
  constructor
  · intro hall d hd heq
    obtain ⟨k, hkd, hkt⟩ := TypeName.exists_shared_suffix_iff.mpr heq
    exact hall k hkt d hd hkd
  · intro hall k hk d hd hkd
    exact hall d hd (TypeName.exists_shared_suffix_iff.mp ⟨k, hkd, hk⟩)

/-- A lookup returns what stands at the position that it finds. -/
theorem get?_eq_some_iff (h : Holds index ds) (d : Declaration) :
    index.get? ty = some d ↔ ∃ i, index.position? ty = some i ∧ ds[i]? = some d := by
  rw [get?, Option.bind_eq_some_iff]
  constructor
  · rintro ⟨i, hi, hd⟩
    exact ⟨i, hi, by rw [← h.getElem?_eq]; exact hd⟩
  · rintro ⟨i, hi, hd⟩
    exact ⟨i, hi, by rw [h.getElem?_eq]; exact hd⟩

/-- A position that a lookup finds is that of a declaration. -/
theorem position?_lt (h : Holds index ds) {i : Nat} (hi : index.position? ty = some i) :
    i < ds.length := by
  obtain ⟨k, -, hfirst⟩ := (h.position?_eq_some_iff i).mp hi
  exact hfirst.lt_length

/-- A lookup returns nothing exactly if it finds no position. -/
theorem get?_eq_none_iff (h : Holds index ds) :
    index.get? ty = none ↔ index.position? ty = none := by
  constructor
  · intro hnone
    cases hpos : index.position? ty with
    | none => rfl
    | some i =>
        have hd := List.getElem?_eq_getElem (h.position?_lt hpos)
        rw [(h.get?_eq_some_iff _).mpr ⟨i, hpos, hd⟩] at hnone
        exact nomatch hnone
  · intro hpos
    rw [get?, hpos, Option.bind_none]

end Holds

/-- **Lookup equals its reference definition.**  After any run, a name leads to the first
    registered declaration that has the longest shared suffix; it leads nowhere exactly if no
    registered declaration has its last segment; and no position is out of range. -/
theorem run_lookup_eq_reference (rs : List Registration) (ty : TypeName) :
    (run rs).declarations.toList = Registration.history rs
    ∧ (∀ i, (run rs).position? ty = some i ↔
        ∃ k, LongestShared (Registration.history rs) ty k ∧ FirstWith (Registration.history rs) k i)
    ∧ (∀ d, (run rs).get? ty = some d ↔
        ∃ k i, LongestShared (Registration.history rs) ty k
          ∧ FirstWith (Registration.history rs) k i ∧ (Registration.history rs)[i]? = some d)
    ∧ ((run rs).get? ty = none ↔
        ∀ d ∈ Registration.history rs, d.typeName.simpleName ≠ ty.simpleName)
    ∧ ∀ entry ∈ (run rs).byName, entry.2 < (run rs).declarations.size := by
  have h := holds_run rs
  refine ⟨h.listed, h.position?_eq_some_iff, ?_, ?_, h.inRange⟩
  · intro d
    rw [h.get?_eq_some_iff]
    constructor
    · rintro ⟨i, hi, hd⟩
      obtain ⟨k, hk, hfirst⟩ := (h.position?_eq_some_iff i).mp hi
      exact ⟨k, i, hk, hfirst, hd⟩
    · rintro ⟨k, i, hk, hfirst, hd⟩
      exact ⟨i, (h.position?_eq_some_iff i).mpr ⟨k, hk, hfirst⟩, hd⟩
  · rw [h.get?_eq_none_iff, h.position?_eq_none_iff]

/-- Two nested builders, registered in two steps: each qualified name has a holder in range, and a
    qualified name of neither finds the first. -/
theorem run_lookup_of_two_builders :
    (⟨"B.Builder"⟩, 1) ∈
      (run [.one (.ofClass "A.Builder"), .many [.ofClass "B.Builder"]]).byName
    ∧ 1 < (run [.one (.ofClass "A.Builder"), .many [.ofClass "B.Builder"]]).declarations.size
    ∧ (run [.one (.ofClass "A.Builder"), .many [.ofClass "B.Builder"]]).get? ⟨"C.Builder"⟩
        = some (.ofClass "A.Builder")
    ∧ (run [.one (.ofClass "A.Builder"), .many [.ofClass "B.Builder"]]).get? ⟨"Builder[]"⟩
        = none := by
  have h := fun ty => run_lookup_eq_reference
    [.one (.ofClass "A.Builder"), .many [.ofClass "B.Builder"]] ty
  have hentry : ((⟨"B.Builder"⟩, 1) : TypeName × Nat) ∈
      (run [.one (.ofClass "A.Builder"), .many [.ofClass "B.Builder"]]).byName := by
    decide +kernel
  refine ⟨hentry, (h ⟨"B.Builder"⟩).2.2.2.2 _ hentry, ?_, ?_⟩
  · refine ((h ⟨"C.Builder"⟩).2.2.1 _).mpr ⟨⟨"Builder"⟩, 0, ⟨?_, ?_, ?_⟩, ⟨?_, ?_⟩, rfl⟩
    · decide +kernel
    · decide +kernel
    · decide +kernel
    · exact ⟨_, rfl, by decide +kernel⟩
    · intro j hj
      exact absurd hj (Nat.not_lt_zero j)
  · refine (h ⟨"Builder[]"⟩).2.2.2.1.mpr ?_
    decide +kernel

end TypeIndex

end BeanMapper
