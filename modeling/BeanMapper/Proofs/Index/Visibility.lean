import BeanMapper.Proofs.Index.Lookup

/-! # Visibility — a registration is reachable for ever or never

    Whether a registration is visible is read off the whole name only, while
    names are bound suffix by suffix.  The two agree, since a name that is
    taken has all its suffixes taken by the same declaration at the latest:

    * `admits_eq_true_iff` says what visible means in the history;
    * `position?_of_visible` finds a visible registration under its whole name,
      whatever comes behind it;
    * `holder?_register_of_shadowed` and `position?_ne_of_shadowed` show that a
      shadowed one binds nothing and is found nowhere;
    * `run_visible_or_unreachable` is the law for every run. -/

namespace BeanMapper

/-- A run goes on from another one with the registration of a declaration. -/
def Registration.Continues (rs : List Registration) (d : Declaration)
    (later : List Registration) : Prop :=
  ∃ rest, history later = history rs ++ d :: rest

namespace TypeIndex

/-- A suffix that no declaration has is the new declaration's, also when others come behind it. -/
theorem FirstWith.of_free {ds rest : List Declaration} {d : Declaration} {k : TypeName}
    (hk : k ∈ d.typeName.suffixes) (hfree : ∀ e ∈ ds, k ∉ e.typeName.suffixes) :
    FirstWith (ds ++ d :: rest) k ds.length := by
  have hlast : FirstWith (ds ++ [d]) k ds.length :=
    FirstWith.append_iff.mpr (Or.inr ⟨rfl, hk, hfree⟩)
  have hall := hlast.append rest
  rw [List.append_assoc, List.singleton_append] at hall
  exact hall

/-- A declaration is first with none of its suffixes if one before it has its whole name. -/
theorem FirstWith.ne_of_shadowed {ds rest : List Declaration} {d e : Declaration} {k : TypeName}
    {i : Nat} (he : e ∈ ds) (hshadow : d.typeName ∈ e.typeName.suffixes)
    (hi : FirstWith (ds ++ d :: rest) k i) : i ≠ ds.length := by
  rintro rfl
  obtain ⟨d', hget, hk⟩ := hi.bears
  rw [List.getElem?_append_right (Nat.le_refl _), Nat.sub_self, List.getElem?_cons_zero] at hget
  obtain rfl : d = d' := Option.some.inj hget
  obtain ⟨j, hj, hej⟩ := List.getElem_of_mem he
  have hje : (ds ++ d :: rest)[j]? = some e := by
    rw [List.getElem?_append_left hj, List.getElem?_eq_getElem hj, hej]
  -- the one before it has every suffix of the name
  exact hi.first j hj e hje (TypeName.suffix_trans hk hshadow)

namespace Holds

variable {index : TypeIndex} {ds rest : List Declaration} {d : Declaration}

/-- A declaration is visible exactly if its whole name is a suffix of no earlier name. -/
theorem admits_eq_true_iff (h : Holds index ds) :
    index.admits d = true ↔ ∀ e ∈ ds, d.typeName ∉ e.typeName.suffixes := by
  rw [admits, Option.isNone_iff_eq_none]
  exact h.holder?_eq_none_iff d.typeName

/-- A declaration is shadowed exactly if its whole name is a suffix of an earlier name. -/
theorem admits_eq_false_iff (h : Holds index ds) :
    index.admits d = false ↔ ∃ e ∈ ds, d.typeName ∈ e.typeName.suffixes := by
  rw [admits, Option.isNone_eq_false_iff, Option.isSome_iff_exists]
  constructor
  · rintro ⟨i, hi⟩
    obtain ⟨e, he, hmem⟩ := ((h.held d.typeName i).mp hi).bears
    exact ⟨e, List.mem_of_getElem? he, hmem⟩
  · rintro ⟨e, he, hmem⟩
    obtain ⟨i, hi⟩ := FirstWith.exists_of_mem he hmem
    exact ⟨i, (h.held d.typeName i).mpr hi⟩

/-- **A visible registration is found under its whole name**, whatever comes behind it. -/
theorem position?_of_visible (h : Holds index (ds ++ d :: rest))
    (hfree : ∀ e ∈ ds, d.typeName ∉ e.typeName.suffixes) :
    index.position? d.typeName = some ds.length := by
  have hmem : d ∈ ds ++ d :: rest := List.mem_append_right ds List.mem_cons_self
  exact (h.position?_eq_some_iff ds.length).mpr
    ⟨d.typeName, LongestShared.of_declared hmem,
      FirstWith.of_free (TypeName.self_mem_suffixes _) hfree⟩

/-- **A shadowed registration is found under no name**, whatever comes behind it. -/
theorem position?_ne_of_shadowed (h : Holds index (ds ++ d :: rest)) {e : Declaration} (he : e ∈ ds)
    (hshadow : d.typeName ∈ e.typeName.suffixes) (ty : TypeName) :
    index.position? ty ≠ some ds.length := by
  intro hfound
  obtain ⟨k, -, hfirst⟩ := (h.position?_eq_some_iff ds.length).mp hfound
  exact hfirst.ne_of_shadowed he hshadow rfl

/-- A shadowed registration binds no name. -/
theorem holder?_register_of_shadowed (h : Holds index ds) {e : Declaration} (he : e ∈ ds)
    (hshadow : d.typeName ∈ e.typeName.suffixes) (k : TypeName) :
    (index.register d).holder? k = index.holder? k := by
  rw [holder?_register]
  by_cases hk : k ∈ d.typeName.suffixes
  · cases hholder : index.holder? k with
    | some i => rw [Option.some_or]
    | none =>
        have hfree := (h.holder?_eq_none_iff k).mp hholder
        exact absurd (TypeName.suffix_trans hk hshadow) (hfree e he)
  · rw [if_neg hk, Option.or_none]

/-- What stands at a position that a lookup finds stays there over a registration. -/
theorem getElem?_register (h : Holds index ds) {ty : TypeName} {i : Nat}
    (hi : index.position? ty = some i) (d : Declaration) :
    (index.register d).declarations[i]? = index.declarations[i]? := by
  have hlt : i < index.declarations.size := by
    rw [h.size_eq]
    exact h.position?_lt hi
  show (index.declarations.push d)[i]? = index.declarations[i]?
  rw [Array.getElem?_push, if_neg (Nat.ne_of_lt hlt)]

/-- A lookup that finds the same position after a registration has the same answer. -/
theorem get?_register_of_position? (h : Holds index ds) {ty : TypeName}
    (hposition : (index.register d).position? ty = index.position? ty) :
    (index.register d).get? ty = index.get? ty := by
  rw [get?, get?, hposition]
  cases hi : index.position? ty with
  | none => rfl
  | some i => exact h.getElem?_register hi d

/-- A shadowed registration changes the answer of no lookup. -/
theorem lookup_register_of_shadowed (h : Holds index ds) {e : Declaration} (he : e ∈ ds)
    (hshadow : d.typeName ∈ e.typeName.suffixes) (ty : TypeName) :
    (index.register d).position? ty = index.position? ty
    ∧ (index.register d).get? ty = index.get? ty := by
  have hposition : (index.register d).position? ty = index.position? ty := by
    have hholder : (index.register d).holder? = index.holder? :=
      funext (h.holder?_register_of_shadowed he hshadow)
    rw [position?, position?, hholder]
  exact ⟨hposition, h.get?_register_of_position? hposition⟩

end Holds

/-- **Visible means reachable for ever, and shadowed unreachable for ever.**  A declaration that is
    visible when it is registered is what its whole name leads to in every later state of the run.
    One that is shadowed changes the answer of no lookup, and no name leads to it in any later
    state. -/
theorem run_visible_or_unreachable (rs : List Registration) (d : Declaration) :
    ((run rs).admits d = true →
      ∀ later, Registration.Continues rs d later →
        (run later).position? d.typeName = some (run rs).size
        ∧ (run later).get? d.typeName = some d)
    ∧ ((run rs).admits d = false →
      (∀ ty, ((run rs).register d).position? ty = (run rs).position? ty
        ∧ ((run rs).register d).get? ty = (run rs).get? ty)
      ∧ ∀ later, Registration.Continues rs d later →
        ∀ ty, (run later).position? ty ≠ some (run rs).size) := by
  have h := holds_run rs
  have hsize : (run rs).size = (Registration.history rs).length := h.size_eq
  constructor
  · rintro hvisible later ⟨rest, hrest⟩
    have hlater := holds_run later
    rw [hrest] at hlater
    have hposition := hlater.position?_of_visible (h.admits_eq_true_iff.mp hvisible)
    refine ⟨by rw [hsize, hposition], ?_⟩
    refine (hlater.get?_eq_some_iff d).mpr ⟨_, hposition, ?_⟩
    rw [List.getElem?_append_right (Nat.le_refl _), Nat.sub_self, List.getElem?_cons_zero]
  · intro hshadowed
    obtain ⟨e, he, hmem⟩ := h.admits_eq_false_iff.mp hshadowed
    refine ⟨h.lookup_register_of_shadowed he hmem, ?_⟩
    rintro later ⟨rest, hrest⟩ ty
    have hlater := holds_run later
    rw [hrest] at hlater
    rw [hsize]
    exact hlater.position?_ne_of_shadowed he hmem ty

/-- Three types of one simple name: the nested one takes it, so the top-level one behind it is
    shadowed, and the second nested one is visible under its whole name only. -/
theorem run_visible_of_three_builders :
    (run [.one (.ofClass "A.Builder")]).admits (.ofClass "Builder") = false
    ∧ (∀ ty, (run [.one (.ofClass "A.Builder"), .many [.ofClass "Builder", .ofClass "B.Builder"]]).position?
        ty ≠ some 1)
    ∧ (run [.many [.ofClass "A.Builder", .ofClass "Builder"]]).admits (.ofClass "B.Builder") = true
    ∧ (run [.one (.ofClass "A.Builder"), .many [.ofClass "Builder", .ofClass "B.Builder"]]).get?
        ⟨"B.Builder"⟩ = some (.ofClass "B.Builder") := by
  have hshadowed : (run [.one (.ofClass "A.Builder")]).admits (.ofClass "Builder") = false := by
    decide +kernel
  have hvisible : (run [.many [.ofClass "A.Builder", .ofClass "Builder"]]).admits
      (.ofClass "B.Builder") = true := by
    decide +kernel
  refine ⟨hshadowed, ?_, hvisible, ?_⟩
  · exact ((run_visible_or_unreachable [.one (.ofClass "A.Builder")] (.ofClass "Builder")).2
      hshadowed).2 _ ⟨[.ofClass "B.Builder"], rfl⟩
  · exact ((run_visible_or_unreachable [.many [.ofClass "A.Builder", .ofClass "Builder"]]
      (.ofClass "B.Builder")).1 hvisible _ ⟨[], rfl⟩).2

end TypeIndex

end BeanMapper
