import BeanMapper.Proofs.Index.Lookup

/-! # Denotation — when a lookup respects what the written name can denote

    A name can denote a declaration if one of the two names is a suffix of the
    other.  A lookup asks for less: what it finds only shares a suffix with the
    written name.  The longest shared suffix tells the two apart:

    * `LongestShared.eq_self_iff` says when it is the written name itself;
    * `LongestShared.refersTo_iff` says which declarations with it the written
      name can denote;
    * `run_lookup_denoted_iff` is the exact condition for every run, and
      `lookup_of_nested_in_front` shows that the condition can fail. -/

namespace BeanMapper

namespace TypeIndex

namespace LongestShared

variable {ds : List Declaration} {ty k : TypeName}

/-- The longest shared suffix is the name itself exactly if some declared name ends in it. -/
theorem eq_self_iff (h : LongestShared ds ty k) :
    ty = k ↔ ∃ e ∈ ds, ty ∈ e.typeName.suffixes := by
  constructor
  · rintro rfl
    exact h.shared
  · rintro ⟨e, he, hmem⟩
    have hle := h.longest ty (TypeName.self_mem_suffixes ty) e he hmem
    rcases TypeName.length_of_mem_suffixes h.own with heq | hlt
    · exact heq.symm
    · exact absurd hle (Nat.not_le.mpr hlt)

/-- Of the declarations with the longest shared suffix a name can denote all if it is that suffix,
    and else those alone that have no other name than it. -/
theorem refersTo_iff (h : LongestShared ds ty k) {d : Declaration} (hd : d ∈ ds)
    (hk : k ∈ d.typeName.suffixes) :
    ty.refersTo d.typeName = true ↔ ty = k ∨ d.typeName = k := by
  rw [TypeName.refersTo_iff]
  constructor
  · rintro (hmem | hmem)
    · exact Or.inl (h.eq_self_iff.mpr ⟨d, hd, hmem⟩)
    · -- the declared name is shared as a whole, so it is no longer than `k`
      have hle := h.longest d.typeName hmem d hd (TypeName.self_mem_suffixes _)
      rcases TypeName.length_of_mem_suffixes hk with heq | hlt
      · exact Or.inr heq.symm
      · exact absurd hle (Nat.not_le.mpr hlt)
  · rintro (rfl | heq)
    · exact Or.inl hk
    · rw [heq]
      exact Or.inr h.own

end LongestShared

/-- A name that can denote a declaration leads to one. -/
theorem Holds.exists_get?_of_denoted {index : TypeIndex} {ds : List Declaration}
    (h : Holds index ds) {ty : TypeName} {e : Declaration} (he : e ∈ ds)
    (hrefers : ty.refersTo e.typeName = true) : ∃ d, index.get? ty = some d := by
  have hsimple : e.typeName.simpleName = ty.simpleName := by
    rcases TypeName.refersTo_iff.mp hrefers with hmem | hmem
    · exact (TypeName.simpleName_eq_of_mem hmem).symm
    · exact TypeName.simpleName_eq_of_mem hmem
  cases hget : index.get? ty with
  | some d => exact ⟨d, rfl⟩
  | none =>
      have hnone := h.position?_eq_none_iff.mp (h.get?_eq_none_iff.mp hget)
      exact absurd hsimple (hnone e he)

/-- **When a lookup respects what the written name can denote.**  A name that can denote a
    registered declaration always leads to one, the first with the longest shared suffix.  The name
    can denote this one exactly if some registered name ends in it, or the name found has no
    segment in front of the shared suffix. -/
theorem run_lookup_denoted_iff (rs : List Registration) (ty : TypeName)
    (hdenoted : ∃ e ∈ Registration.history rs, ty.refersTo e.typeName = true) :
    ∃ k i d, LongestShared (Registration.history rs) ty k
      ∧ FirstWith (Registration.history rs) k i ∧ (Registration.history rs)[i]? = some d
      ∧ (run rs).get? ty = some d
      ∧ (ty.refersTo d.typeName = true ↔
          (∃ e ∈ Registration.history rs, ty ∈ e.typeName.suffixes) ∨ d.typeName = k) := by
  have h := holds_run rs
  obtain ⟨e, he, hrefers⟩ := hdenoted
  obtain ⟨d, hget⟩ := h.exists_get?_of_denoted he hrefers
  obtain ⟨i, hposition, hd⟩ := (h.get?_eq_some_iff d).mp hget
  obtain ⟨k, hlongest, hfirst⟩ := (h.position?_eq_some_iff i).mp hposition
  refine ⟨k, i, d, hlongest, hfirst, hd, hget, ?_⟩
  obtain ⟨d', hd', hk⟩ := hfirst.bears
  obtain rfl : d = d' := Option.some.inj (hd.symm.trans hd')
  rw [hlongest.refersTo_iff (List.mem_of_getElem? hd) hk, hlongest.eq_self_iff]

/-- A builder and, behind it, a nested one: a qualified name of the first does not lead to the
    second. -/
theorem lookup_of_nested_behind :
    (∃ e ∈ Registration.history [.many [.ofClass "Builder", .ofClass "A.Builder"]],
      (⟨"B.Builder"⟩ : TypeName).refersTo e.typeName = true)
    ∧ ∃ d, (run [.many [.ofClass "Builder", .ofClass "A.Builder"]]).get? ⟨"B.Builder"⟩ = some d
      ∧ (⟨"B.Builder"⟩ : TypeName).refersTo d.typeName = true := by
  have hdenoted : ∃ e ∈ Registration.history [.many [.ofClass "Builder", .ofClass "A.Builder"]],
      (⟨"B.Builder"⟩ : TypeName).refersTo e.typeName = true := by
    decide +kernel
  refine ⟨hdenoted, ?_⟩
  obtain ⟨k, i, d, hlongest, hfirst, hd, hget, hiff⟩ := run_lookup_denoted_iff _ _ hdenoted
  refine ⟨d, hget, hiff.mpr (Or.inr ?_)⟩
  -- the longest shared suffix is the whole name of the first declaration
  have hfound : (run [.many [.ofClass "Builder", .ofClass "A.Builder"]]).get? ⟨"B.Builder"⟩
      = some (.ofClass "Builder") := by
    decide +kernel
  obtain rfl := Option.some.inj (hget.symm.trans hfound)
  obtain ⟨d', hd', hk⟩ := hfirst.bears
  obtain rfl := Option.some.inj (hd.symm.trans hd')
  rw [show (Declaration.ofClass "Builder").typeName.suffixes = [⟨"Builder"⟩] by decide +kernel,
    List.mem_singleton] at hk
  exact hk.symm

/-- A nested builder and, behind it, one that a qualified name can denote: the name leads to the
    nested one, which it cannot denote. -/
theorem lookup_of_nested_in_front :
    (∃ e ∈ Registration.history [.many [.ofClass "A.Builder", .ofClass "Builder"]],
      (⟨"B.Builder"⟩ : TypeName).refersTo e.typeName = true)
    ∧ (run [.many [.ofClass "A.Builder", .ofClass "Builder"]]).get? ⟨"B.Builder"⟩
        = some (.ofClass "A.Builder")
    ∧ (⟨"B.Builder"⟩ : TypeName).refersTo (Declaration.ofClass "A.Builder").typeName = false := by
  decide +kernel

end TypeIndex

end BeanMapper
