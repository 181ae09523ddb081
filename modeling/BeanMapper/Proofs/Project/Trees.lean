import BeanMapper.Project
import BeanMapper.Proofs.Java.Innermost

/-! # Trees of files — what a project may count on

    What a project says of its files follows from three properties of their
    trees, whatever read them: every node has parts that fit it, the nodes lie
    in the text, and the root is a program.  The tree that is read of a text
    has them (`wellFormed_parsed`), that of a text that is not well formed too:
    it is a program with nothing in it. -/

namespace BeanMapper

/-- The tree of a file is a program that is shaped and laid out in the text. -/
structure ParsedFile.WellFormed (file : ParsedFile) : Prop where
  /-- Every node has parts that fit it. -/
  shaped : Java.Shaped file.root
  /-- The nodes lie in the text. -/
  laid : Java.Laid file.source.toList file.root
  /-- The root is a program. -/
  program : file.root.kind = .program

/-- In a well formed tree, ranges are nested. -/
theorem ParsedFile.WellFormed.nested {file : ParsedFile} (h : file.WellFormed) :
    Java.Nested file.root :=
  h.laid.nested (by rw [h.program]; rfl)

namespace Project

/-- **Every file that is read is well formed.** -/
theorem wellFormed_parsed (file : SourceFile) : (parsed file).WellFormed := by
  obtain ⟨path, source⟩ := file
  have hroot : Java.Shaped (treeOf source) ∧ Java.Laid source.toList (treeOf source)
      ∧ (treeOf source).kind = .program := by
    rw [treeOf]
    cases hparse : Java.parse? source with
    | some root =>
        exact ⟨Java.shaped_of_parse? hparse, Java.laid_of_parse? hparse, Java.kind_of_parse? hparse⟩
    | none =>
        -- nothing is read, and a program with nothing in it is shaped and laid out
        have htop : Java.TopLevel [] :=
          ⟨fun n hn => absurd hn List.not_mem_nil, fun x hx => absurd hx List.not_mem_nil⟩
        exact ⟨htop.program (fun c hc => absurd hc List.not_mem_nil) _,
          Java.LaidOut.nil.program (fun c hc => absurd hc List.not_mem_nil) .nil
            fun c hc => absurd hc List.not_mem_nil, rfl⟩
  exact ⟨hroot.1, hroot.2.1, hroot.2.2⟩

end Project

end BeanMapper
