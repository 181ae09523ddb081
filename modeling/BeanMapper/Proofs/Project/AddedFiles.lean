import BeanMapper.Proofs.Index.Growth
import BeanMapper.Proofs.Project.SourceType

/-! # Added files — which lookups they move, and which stay

    Files are added behind the edited file, declaration by declaration.  What
    one registration does to lookups (`TypeIndex.Holds.lookup_register`) says
    what all of them can do:

    * `ofFiles_append` takes a project apart into the steps that led to it;
    * `get?_ofFiles_append` says that what goes by the name of a type of the
      edited file is never moved;
    * `registration_moves_longer_matches_only` is the law for one registration,
      for added files, and for two registrations in either order. -/

namespace BeanMapper

namespace Project

/-- Files that are added in two parts are added one behind the other. -/
theorem ofFiles_append (config : Config) (edited : ParsedFile) (added more : List ParsedFile) :
    ofFiles config edited (added ++ more)
      = more.foldl addParsed (ofFiles config edited added) := by
  rw [ofFiles, List.foldl_append]
  rfl

/-- **What goes by the name of a type of the edited file is moved by no added file**; by induction on
    the files. -/
theorem get?_ofFiles_append (config : Config) (edited : ParsedFile) (added more : List ParsedFile)
    {d : Declaration} (hd : d ∈ declarationsOf (synthesisOf config) edited) {ty : TypeName}
    (hty : ty ∈ d.typeName.suffixes) :
    (ofFiles config edited (added ++ more)).index.get? ty
      = (ofFiles config edited added).index.get? ty := by
  induction more generalizing added with
  | nil => rw [List.append_nil]
  | cons file more ih =>
      have hfile : (ofFiles config edited (added ++ [file])).index.get? ty
          = (ofFiles config edited added).index.get? ty := by
        have hopened := opened_ofFiles config edited added
        have hall := List.mem_append_left (added.flatMap (declarationsOf (synthesisOf config))) hd
        rw [ofFiles_append]
        exact (hopened.holds.lookup_extend_of_declared hall hty _).2
      have hrest := ih (added ++ [file])
      rw [List.append_assoc, List.singleton_append] at hrest
      rw [hrest, hfile]

/-- **A registration moves longer matches only.**  After one more registration a name leads to the
    new declaration if it shares a longer suffix with it than with every earlier one, and leads
    where it led before if not.  So in a project a name that goes by a type of the edited file leads
    to the same declaration whatever files are added; and two registrations in a row whose names
    have different last segments may be exchanged anywhere in a run. -/
theorem registration_moves_longer_matches_only :
    (∀ (rs : List Registration) (d : Declaration) (ty : TypeName),
      (TypeIndex.TakesOver (Registration.history rs) d ty →
        ((TypeIndex.run rs).register d).position? ty = some (TypeIndex.run rs).size
        ∧ ((TypeIndex.run rs).register d).get? ty = some d)
      ∧ (¬ TypeIndex.TakesOver (Registration.history rs) d ty →
        ((TypeIndex.run rs).register d).position? ty = (TypeIndex.run rs).position? ty
        ∧ ((TypeIndex.run rs).register d).get? ty = (TypeIndex.run rs).get? ty))
    ∧ (∀ (config : Config) (edited : ParsedFile) (added more : List ParsedFile) (ty : TypeName),
        (∃ d ∈ declarationsOf (synthesisOf config) edited, ty ∈ d.typeName.suffixes) →
        (ofFiles config edited (added ++ more)).index.get? ty
          = (ofFiles config edited added).index.get? ty)
    ∧ ∀ (rs rs' : List Registration) (before rest : List Declaration) (d e : Declaration),
        d.typeName.simpleName ≠ e.typeName.simpleName →
        Registration.history rs = before ++ d :: e :: rest →
        Registration.history rs' = before ++ e :: d :: rest →
        ∀ ty, (TypeIndex.run rs).get? ty = (TypeIndex.run rs').get? ty := by
  refine ⟨?_, ?_, ?_⟩
  · intro rs d ty
    have h := TypeIndex.holds_run rs
    have hsize : (TypeIndex.run rs).size = (Registration.history rs).length := h.size_eq
    rw [hsize]
    exact h.lookup_register d ty
  · rintro config edited added more ty ⟨d, hd, hty⟩
    exact get?_ofFiles_append config edited added more hd hty
  · intro rs rs' before rest d e hapart hrs hrs' ty
    have h := TypeIndex.holds_run rs
    have h' := TypeIndex.holds_run rs'
    rw [hrs] at h
    rw [hrs'] at h'
    exact h.get?_exchange h' hapart ty

/-- A file with a type nested in another one. -/
def nestedStep : ParsedFile := parsed ⟨"O.java", "class A\x7bclass B\x7b\x7d\x7d"⟩

/-- Behind a nested builder another one takes over its own name and no other; the simple name of a
    type of the edited file stays with it when a file adds a type of that very name; and two types
    with different simple names may be registered in either order. -/
theorem registration_of_second_builder :
    ((TypeIndex.run [.one (.ofClass "A.Builder")]).register (.ofClass "B.Builder")).get?
        ⟨"c.B.Builder"⟩ = some (.ofClass "B.Builder")
    ∧ ((TypeIndex.run [.one (.ofClass "A.Builder")]).register (.ofClass "B.Builder")).get?
        ⟨"C.Builder"⟩ = some (.ofClass "A.Builder")
    ∧ (ofFiles .default nestedStep [parsed ⟨"B.java", "class B\x7b\x7d"⟩]).index.get? ⟨"B"⟩
        = (ofFiles .default nestedStep []).index.get? ⟨"B"⟩
    ∧ (TypeIndex.run [.many [.ofClass "A.Order", .ofClass "Line"]]).get? ⟨"Order"⟩
        = (TypeIndex.run [.one (.ofClass "Line"), .one (.ofClass "A.Order")]).get? ⟨"Order"⟩ := by
  obtain ⟨hstep, hadded, hexchange⟩ := registration_moves_longer_matches_only
  refine ⟨?_, ?_, ?_, ?_⟩
  · refine ((hstep [.one (.ofClass "A.Builder")] (.ofClass "B.Builder") _).1 ?_).2
    exact ⟨⟨"B.Builder"⟩, by decide +kernel, by decide +kernel, by decide +kernel⟩
  · rw [((hstep [.one (.ofClass "A.Builder")] (.ofClass "B.Builder") _).2 ?_).2]
    · decide +kernel
    · -- both builders share the last segment with it, and nothing longer
      rintro ⟨k, hk, hkd, hlonger⟩
      have hall : ∀ k ∈ (⟨"C.Builder"⟩ : TypeName).suffixes,
          k ∈ (Declaration.ofClass "B.Builder").typeName.suffixes → k = ⟨"Builder"⟩ := by
        decide +kernel
      obtain rfl := hall k hk hkd
      exact absurd (hlonger ⟨"Builder"⟩ hk (.ofClass "A.Builder") (by decide +kernel)
        (by decide +kernel)) (Nat.lt_irrefl _)
  · exact hadded .default nestedStep [] [parsed ⟨"B.java", "class B\x7b\x7d"⟩] ⟨"B"⟩ (by decide +kernel)
  · exact hexchange [.many [.ofClass "A.Order", .ofClass "Line"]]
      [.one (.ofClass "Line"), .one (.ofClass "A.Order")] [] [] (.ofClass "A.Order")
      (.ofClass "Line") (by decide +kernel) rfl rfl ⟨"Order"⟩

end Project

end BeanMapper
