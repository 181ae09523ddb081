import BeanMapper.Proofs.Java.Innermost
import BeanMapper.Proofs.Project.EnclosingType

/-! # Innermost methods — what an analysis depends on

    An analysis looks at the text around a cursor only to find a method:

    * `analyze_congr` says that the method at an offset decides the analysis;
    * `located_method_is_innermost` puts this behind `Java.smallest_iff_nearest`:
      **two cursors with the same innermost method around them give the same
      analysis.** -/

namespace BeanMapper.Project

/-- Offsets with the same method give the same analysis. -/
theorem analyze_congr {p : Project} {settings : Config} {first second : Nat}
    (h : (p.view.nodeAt first).bind (p.view.enclosingMethod? settings.maxAscentDepth.toNat)
      = (p.view.nodeAt second).bind (p.view.enclosingMethod? settings.maxAscentDepth.toNat)) :
    p.analyze settings first = p.analyze settings second := by
  rw [analyze, analyze, BeanMapper.analyze, BeanMapper.analyze, locate, locate, h]

/-- **The method that is located is the innermost one around the cursor.**  In every tree with nested
    ranges that is no deeper than the bound, it is the smallest method around the byte that the
    cursor belongs to, and there is none exactly if no method covers that byte or the cursor is past
    the end of the text.  In a project with such a tree of its edited file, an analysis gives the
    same at two offsets with the same innermost method around them.  The trees of all texts have
    nested ranges. -/
theorem located_method_is_innermost :
    (∀ (source : List Char) (root : Java.Node) (depth offset : Nat), Java.Nested root →
      root.depth ≤ depth →
      (∀ m, ((Java.syntaxView source root).nodeAt offset).bind
            ((Java.syntaxView source root).enclosingMethod? depth) = some m ↔
          ∃ method, Java.InnermostAt (Text.byteLength source) root offset method
            ∧ Java.methodAt? source method = some m)
      ∧ (((Java.syntaxView source root).nodeAt offset).bind
            ((Java.syntaxView source root).enclosingMethod? depth) = none ↔
          Text.byteLength source < offset
            ∨ ∀ method, ¬ Java.Around root (Java.byteAt (Text.byteLength source) offset) method))
    ∧ (∀ file, Java.Nested (parsed file).root)
    ∧ ∀ (config settings : Config) (edited : ParsedFile) (siblings : List ParsedFile),
        Java.Nested edited.root → edited.root.depth ≤ settings.maxAscentDepth.toNat →
        ∀ first second,
          (∀ method,
            Java.InnermostAt (Text.byteLength edited.source.toList) edited.root first method
              ↔ Java.InnermostAt (Text.byteLength edited.source.toList) edited.root second method) →
          (ofFiles config edited siblings).analyze settings first
            = (ofFiles config edited siblings).analyze settings second := by
  refine ⟨fun source root depth offset hroot hdepth => ⟨fun m => ?_, ?_⟩,
    fun file => (wellFormed_parsed file).nested, ?_⟩
  · exact Java.enclosingMethod?_innermost hroot hdepth
  · exact Java.enclosingMethod?_eq_none_iff hroot hdepth
  · intro config settings edited siblings hroot hdepth first second hsame
    refine analyze_congr (Option.ext fun m => ?_)
    rw [(opened_ofFiles config edited siblings).view_eq,
      Java.enclosingMethod?_innermost hroot hdepth, Java.enclosingMethod?_innermost hroot hdepth]
    exact exists_congr fun method => and_congr_left fun _ => hsame method

/-- A file with a method that creates an object, which has a method itself. -/
def methodInMethod : ParsedFile :=
  parsed ⟨"A.java", "class A\x7bA m()\x7bnew A()\x7bvoid n()\x7b\x7d\x7d;return this;\x7d\x7d"⟩

/-- Before and behind the inner method the outer one is located, and the analysis is the same; in the
    inner method it is not. -/
theorem located_method_around_inner_method :
    methodInMethod.root.depth ≤ Config.default.maxAscentDepth.toNat
    ∧ Java.Nested methodInMethod.root
    ∧ (∃ outer inner,
        Java.InnermostAt (Text.byteLength methodInMethod.source.toList) methodInMethod.root 15 outer
        ∧ Java.InnermostAt (Text.byteLength methodInMethod.source.toList) methodInMethod.root 24 inner
        ∧ outer.node.start < inner.node.start
        ∧ ((Java.syntaxView methodInMethod.source.toList methodInMethod.root).nodeAt 24).bind
              ((Java.syntaxView methodInMethod.source.toList methodInMethod.root).enclosingMethod?
                Config.default.maxAscentDepth.toNat)
            = Java.methodAt? methodInMethod.source.toList inner)
    ∧ (ofFiles .default methodInMethod []).analyze .default 15
        = (ofFiles .default methodInMethod []).analyze .default 36
    ∧ (ofFiles .default methodInMethod []).analyze .default 24
        ≠ (ofFiles .default methodInMethod []).analyze .default 36 := by
  obtain ⟨hdepth, hfirst, hinner, hsecond, hdiffer⟩ :
      methodInMethod.root.depth ≤ Config.default.maxAscentDepth.toNat
      ∧ (Java.innermostMethod? (Text.byteLength methodInMethod.source.toList) methodInMethod.root
          15).map (fun m => (m.node.start, m.node.stop)) = some (8, 47)
      ∧ (Java.innermostMethod? (Text.byteLength methodInMethod.source.toList) methodInMethod.root
          24).map (fun m => (m.node.start, m.node.stop)) = some (22, 32)
      ∧ (Java.innermostMethod? (Text.byteLength methodInMethod.source.toList) methodInMethod.root
          36).map (fun m => (m.node.start, m.node.stop)) = some (8, 47)
      ∧ (ofFiles .default methodInMethod []).analyze .default 24
          ≠ (ofFiles .default methodInMethod []).analyze .default 36 := by
    decide +kernel
  obtain ⟨hlocated, hnested, hanalyze⟩ := located_method_is_innermost
  have hroot : Java.Nested methodInMethod.root := hnested _
  obtain ⟨outer, houter, hrange⟩ := Option.map_eq_some_iff.mp hfirst
  obtain ⟨again, hagain, hrange'⟩ := Option.map_eq_some_iff.mp hsecond
  obtain ⟨inner, hin, hrange''⟩ := Option.map_eq_some_iff.mp hinner
  simp only [Prod.mk.injEq] at hrange hrange' hrange''
  have houter' := (Java.innermostAt_iff hroot).mpr houter
  have hagain' := (Java.innermostAt_iff hroot).mpr hagain
  -- both offsets lie in both methods, so these are one
  obtain rfl : outer = again := by
    refine houter'.2.eq_of_covers hagain'.2 (Java.Node.covers_iff.mpr ?_)
      (Java.Node.covers_iff.mpr ?_)
    · rw [hrange.1, hrange.2]
      decide +kernel
    · rw [hrange'.1, hrange'.2]
      decide +kernel
  have hin' := (Java.innermostAt_iff hroot).mpr hin
  have hat : ∃ m, Java.methodAt? methodInMethod.source.toList inner = some m :=
    ⟨_, by rw [Java.methodAt?, if_pos hin'.2.isMethod]⟩
  obtain ⟨m, hm⟩ := hat
  refine ⟨hdepth, hroot, ⟨outer, inner, houter', hin', by omega, ?_⟩, ?_, hdiffer⟩
  · rw [hm]
    exact ((hlocated _ _ _ 24 hroot hdepth).1 m).mpr ⟨inner, hin', hm⟩
  refine hanalyze .default .default methodInMethod [] hroot hdepth 15 36 fun method => ?_
  rw [Java.innermostAt_iff hroot, Java.innermostAt_iff hroot, houter, hagain]

end BeanMapper.Project
