import BeanMapper.Proofs.Analysis.Resolution
import BeanMapper.Proofs.Project.Trees

/-! # Source types — when the source is the type around the cursor

    The type around a method is turned into its name, and the name is looked
    up again among the declarations of the edited file and of every file added
    after it.  Full names may be distinct and still be suffixes of each other:

    * `Opened` is what adding files to a project keeps: the tree of the edited
      file, and its declarations in front of all others (`opened_ofFiles`);
    * `DeclaredAround` names the declaration that the innermost method around
      an offset stands in, by the tree alone (`exists_declaredAround`);
    * `firstNamed?` is the declaration that its name leads to
      (`Opened.get?_declared`), and `firstNamed?_split` says when it is itself;
    * `source_is_around_iff` puts them together: **the source is the type
      around the cursor exactly if no declaration in front of it has its full
      name as a suffix**. -/

namespace BeanMapper

/-! ## The first declaration with a name -/

/-- Among declarations with distinct names, the first one that goes by the name of `d` is `d` itself
    exactly if none in front of it goes by that name, and has the name of `d` only then. -/
theorem firstNamed?_split {before after : List Declaration} {d s : Declaration}
    (hdistinct : ((before ++ d :: after).map (·.typeName)).Nodup)
    (hs : firstNamed? (before ++ d :: after) d.typeName = some s) :
    (s = d ↔ ∀ e ∈ before, d.typeName ∉ e.typeName.suffixes)
      ∧ (s.typeName = d.typeName ↔ s = d) := by
  have hbefore : ∀ e ∈ before, e.typeName ≠ d.typeName := by
    rw [List.map_append, List.map_cons] at hdistinct
    intro e he
    exact (List.nodup_append.mp hdistinct).2.2 e.typeName (List.mem_map_of_mem he)
      d.typeName List.mem_cons_self
  rw [firstNamed?, List.find?_append] at hs
  cases hfound : before.find? fun e => decide (d.typeName ∈ e.typeName.suffixes) with
  | none =>
      have hnone : ∀ e ∈ before, d.typeName ∉ e.typeName.suffixes := by
        simpa using hfound
      have hown := decide_eq_true (TypeName.self_mem_suffixes d.typeName)
      rw [hfound, Option.none_or, List.find?_cons, hown] at hs
      obtain rfl := Option.some.inj hs
      exact ⟨⟨fun _ => hnone, fun _ => rfl⟩, ⟨fun _ => rfl, fun _ => rfl⟩⟩
  | some e =>
      rw [hfound, Option.some_or] at hs
      obtain rfl := Option.some.inj hs
      have hmem := List.mem_of_find?_eq_some hfound
      have hname : d.typeName ∈ e.typeName.suffixes := by simpa using List.find?_some hfound
      refine ⟨⟨?_, fun hnone => absurd hname (hnone e hmem)⟩, ⟨?_, ?_⟩⟩
      · rintro rfl
        exact absurd rfl (hbefore e hmem)
      · intro heq
        exact absurd heq (hbefore e hmem)
      · rintro rfl
        rfl

namespace Project

variable {synthesis : Java.Synthesis} {edited : ParsedFile} {p : Project}

/-! ## Files that are added -/

/-- A project is that of an edited file to which some files were added. -/
structure Opened (synthesis : Java.Synthesis) (edited : ParsedFile) (added : List ParsedFile)
    (p : Project) : Prop where
  /-- Setters are added to all classes in the same way. -/
  synthesis_eq : p.synthesis = synthesis
  /-- A cursor stands in the tree of the edited file. -/
  view_eq : p.view = Java.syntaxView edited.source.toList edited.root
  /-- The declarations of the edited file stand in front of those of the added files. -/
  holds : p.index.Holds
    (declarationsOf synthesis edited ++ added.flatMap (declarationsOf synthesis))

/-- The project of one file is that file without others. -/
theorem opened_ofParsed (config : Config) (edited : ParsedFile) :
    Opened (synthesisOf config) edited [] (ofParsed config edited) where
  synthesis_eq := rfl
  view_eq := rfl
  holds := by
    rw [List.flatMap_nil, List.append_nil]
    exact TypeIndex.Holds.empty.extend (declarationsOf (synthesisOf config) edited)

/-- One more file comes behind the others. -/
theorem Opened.addParsed {added : List ParsedFile} (h : Opened synthesis edited added p)
    (file : ParsedFile) : Opened synthesis edited (added ++ [file]) (p.addParsed file) := by
  obtain ⟨rfl, hview, hholds⟩ := h
  refine ⟨rfl, hview, ?_⟩
  rw [List.flatMap_append, List.flatMap_singleton, ← List.append_assoc]
  exact hholds.extend (declarationsOf p.synthesis file)

/-- However many files are added, the edited file stays in front of them; by induction on the files. -/
theorem opened_ofFiles (config : Config) (edited : ParsedFile) (siblings : List ParsedFile) :
    Opened (synthesisOf config) edited siblings (ofFiles config edited siblings) := by
  have general : ∀ (added : List ParsedFile) (p : Project),
      Opened (synthesisOf config) edited added p →
      Opened (synthesisOf config) edited (added ++ siblings)
        (siblings.foldl Project.addParsed p) := by
    induction siblings with
    | nil =>
        intro added p h
        rw [List.append_nil]
        exact h
    | cons file files ih =>
        intro added p h
        have hrest := ih (added ++ [file]) (p.addParsed file) (h.addParsed file)
        rw [List.append_assoc, List.singleton_append] at hrest
        exact hrest
  exact general [] _ (opened_ofParsed config edited)

/-- The name of a declaration of the edited file leads to the first one of that file with it, whatever
    the added files declare. -/
theorem Opened.get?_declared {added : List ParsedFile} (h : Opened synthesis edited added p)
    {d s : Declaration} (hd : d ∈ declarationsOf synthesis edited)
    (hs : p.index.get? d.typeName = some s) :
    firstNamed? (declarationsOf synthesis edited) d.typeName = some s := by
  have hall := List.mem_append_left (added.flatMap (declarationsOf synthesis)) hd
  obtain ⟨i, hfirst⟩ := TypeIndex.FirstWith.exists_of_mem hd (TypeName.self_mem_suffixes d.typeName)
  -- the longest suffix that is shared is the name itself, since it is declared
  have hposition : p.index.position? d.typeName = some i :=
    (h.holds.position?_eq_some_iff i).mpr
      ⟨d.typeName, TypeIndex.LongestShared.of_declared hall, hfirst.append _⟩
  obtain ⟨j, hj, hget⟩ := (h.holds.get?_eq_some_iff s).mp hs
  obtain rfl : i = j := Option.some.inj (hposition.symm.trans hj)
  rw [List.getElem?_append_left hfirst.lt_length] at hget
  rw [firstNamed?_eq hfirst, hget]

/-! ## The declaration around a cursor -/

/-- The innermost method around an offset of a file stands directly in the body of the type that a
    declaration was read from. -/
def DeclaredAround (synthesis : Java.Synthesis) (file : ParsedFile) (offset : Nat)
    (d : Declaration) : Prop :=
  ∃ method body owner plain,
    Java.innermostMethod? (Text.byteLength file.source.toList) file.root offset
      = some method
    ∧ Java.Encloses file.source.toList synthesis file.root method body owner plain
    ∧ d = plain.withOrigin file.path

/-- There is one declaration around an offset at most. -/
theorem DeclaredAround.unique {offset : Nat} {d e : Declaration}
    (hd : DeclaredAround synthesis edited offset d)
    (he : DeclaredAround synthesis edited offset e) : d = e := by
  obtain ⟨method, body, owner, plain, hmethod, hencloses, rfl⟩ := hd
  obtain ⟨method', body', owner', plain', hmethod', hencloses', rfl⟩ := he
  obtain rfl : method = method' := Option.some.inj (hmethod.symm.trans hmethod')
  have haround := hencloses.around.symm.trans hencloses'.around
  injection haround with hbody hrest
  injection hrest with hnode habove
  have hdeclared := hencloses.declared
  rw [hnode, habove, hencloses'.declared] at hdeclared
  rw [Option.some.inj hdeclared]

/-- A declaration around an offset is one of the file. -/
theorem DeclaredAround.mem {offset : Nat} {d : Declaration}
    (h : DeclaredAround synthesis edited offset d) : d ∈ declarationsOf synthesis edited := by
  obtain ⟨method, body, owner, plain, -, hencloses, rfl⟩ := h
  exact List.mem_map.mpr ⟨plain, hencloses.place.mem_declarationsIn hencloses.declared, rfl⟩

/-- **The name that is taken for the type around a cursor is that of the declaration around it.** -/
theorem exists_declaredAround {depth offset : Nat} {m : EnclosingMethod} {name : TypeName}
    (hm : ((Java.syntaxView edited.source.toList edited.root).nodeAt offset).bind
      ((Java.syntaxView edited.source.toList edited.root).enclosingMethod? depth) = some m)
    (hroot : Java.Shaped edited.root) (hname : m.enclosingType = some name)
    (synthesis : Java.Synthesis) :
    ∃ d, DeclaredAround synthesis edited offset d ∧ d.typeName = name := by
  obtain ⟨site, hsite, hascent⟩ := Option.bind_eq_some_iff.mp hm
  obtain ⟨method, hmethod, -, hat⟩ := (Java.enclosingMethod?_eq_some_iff depth).mp hascent
  have hsite' : Java.siteAt (Text.byteLength edited.source.toList) edited.root offset
      = some site := hsite
  have hinnermost : Java.innermostMethod? (Text.byteLength edited.source.toList)
      edited.root offset = some method := by
    rw [Java.innermostMethod?, hsite', Option.bind_some]
    exact hmethod
  have henclosing : Java.enclosingName? edited.source.toList method.above = some name := by
    rw [Java.methodAt?] at hat
    split at hat
    · obtain rfl := Option.some.inj hat
      exact hname
    · cases hat
  have hplace := (Java.place_of_siteAt hsite').nearestMethod hmethod
  obtain ⟨body, owner, plain, hencloses, hplain⟩ :=
    hplace.declaring hroot synthesis henclosing
  exact ⟨plain.withOrigin edited.path, ⟨method, body, owner, plain, hinnermost, hencloses, rfl⟩,
    hplain⟩

/-! ## The source of an analysis -/

/-- What is known of an optional result is known of a result. -/
theorem ok_of_toOption_map {ε α β : Type} {x : Except ε α} {f : α → β} {b : β}
    (h : x.toOption.map f = some b) : ∃ a, x = .ok a ∧ f a = b := by
  cases x with
  | error e => exact nomatch h
  | ok a => exact ⟨a, rfl, Option.some.inj h⟩

/-- **The source is the type around the cursor exactly if no declaration in front of it has its full
    name as a suffix.**  The declaration `d` around the cursor gives only its name; the fields that
    are matched are those of `s`, the first declaration of the edited file that goes by this name,
    whatever files are added.  This holds for every shaped tree of the edited file, and those of all
    texts are shaped. -/
theorem source_is_around_iff (config settings : Config) (edited : ParsedFile)
    (siblings : List ParsedFile) (offset : Nat) (a : Analysis) :
    (∀ file, Java.Shaped (parsed file).root)
    ∧ (Java.Shaped edited.root →
        ((declarationsOf (synthesisOf config) edited).map (·.typeName)).Nodup →
        (ofFiles config edited siblings).analyze settings offset = .ok a →
        ∃ d before after method target s,
          DeclaredAround (synthesisOf config) edited offset d
          ∧ declarationsOf (synthesisOf config) edited = before ++ d :: after
          ∧ Resolves (ofFiles config edited siblings).view
              (ofFiles config edited siblings).index.get? settings.maxAscentDepth.toNat offset
              method target s
          ∧ method.enclosingType = some d.typeName
          ∧ a = ⟨Resolves.context method target s, generateFor settings target s⟩
          ∧ firstNamed? (declarationsOf (synthesisOf config) edited) d.typeName = some s
          ∧ (s = d ↔ ∀ e ∈ before, d.typeName ∉ e.typeName.suffixes)
          ∧ (a.context.source = d.typeName ↔ ∀ e ∈ before, d.typeName ∉ e.typeName.suffixes)) := by
  refine ⟨fun file => (wellFormed_parsed file).shaped, fun hroot hdistinct hok => ?_⟩
  have hopened := opened_ofFiles config edited siblings
  obtain ⟨method, target, s, hresolves, rfl⟩ := (analyze_eq_ok_iff hopened.holds.stable).mp hok
  obtain ⟨name, hname, hs⟩ := Option.bind_eq_some_iff.mp hresolves.source_eq
  have hmethod := hresolves.method_eq
  rw [hopened.view_eq] at hmethod
  -- the declaration around the cursor is found by the tree, the source by its name alone
  obtain ⟨d, hd, rfl⟩ := exists_declaredAround hmethod hroot hname (synthesisOf config)
  have hfirst := hopened.get?_declared hd.mem hs
  obtain ⟨before, after, hsplit⟩ := List.append_of_mem hd.mem
  rw [hsplit] at hdistinct
  obtain ⟨hself, hsame⟩ := firstNamed?_split hdistinct (by rw [← hsplit]; exact hfirst)
  exact ⟨d, before, after, method, target, s, hd, hsplit, hresolves, hname, rfl, hfirst, hself,
    hsame.trans hself⟩

/-- A file with a type and, behind it, a nested type of the same simple name. -/
def nestedBehind : ParsedFile :=
  parsed ⟨"O.java", "class B\x7bB m()\x7b\x7d\x7dclass A\x7bclass B\x7b\x7d\x7d"⟩

/-- A type is the source of its own method, although types of its name are nested behind it and in
    another file. -/
theorem source_of_nested_behind :
    ((declarationsOf (synthesisOf .default) nestedBehind).map (·.typeName)).Nodup
    ∧ ∃ a d, (ofFiles .default nestedBehind
          [parsed ⟨"C.java", "class C\x7bclass B\x7b\x7d\x7d"⟩]).analyze .default 10 = .ok a
      ∧ DeclaredAround (synthesisOf .default) nestedBehind 10 d
      ∧ a.context.source = d.typeName := by
  -- one evaluation, so that the text is read once
  obtain ⟨hdistinct, hsource⟩ :
      ((declarationsOf (synthesisOf .default) nestedBehind).map (·.typeName)).Nodup
      ∧ ((ofFiles .default nestedBehind
          [parsed ⟨"C.java", "class C\x7bclass B\x7b\x7d\x7d"⟩]).analyze .default 10).toOption.map
            (·.context.source) = some ⟨"B"⟩ := by
    decide +kernel
  obtain ⟨a, hok, ha⟩ := ok_of_toOption_map hsource
  obtain ⟨hshaped, hsources⟩ := source_is_around_iff .default .default nestedBehind
    [parsed ⟨"C.java", "class C\x7bclass B\x7b\x7d\x7d"⟩] 10 a
  obtain ⟨d, before, after, method, target, s, hd, -, -, -, rfl, hfirst, -, -⟩ :=
    hsources (hshaped _) hdistinct hok
  -- the name of the source has no suffix but itself
  have hname : d.typeName ∈ s.typeName.suffixes := by simpa using List.find?_some hfirst
  refine ⟨hdistinct, _, d, hok, hd, ?_⟩
  rw [show s.typeName = ⟨"B"⟩ from ha, show TypeName.suffixes ⟨"B"⟩ = [⟨"B"⟩] by decide +kernel,
    List.mem_singleton] at hname
  rw [ha, hname]

/-- A file with a type and, in front of it, a nested type of the same simple name. -/
def nestedInFront : ParsedFile :=
  parsed ⟨"O.java", "class A\x7bclass B\x7b\x7d\x7dclass B\x7bB m()\x7b\x7d\x7d"⟩

/-- A type is not the source of its own method where a type of its name is nested in front of it. -/
theorem source_of_nested_in_front :
    ((declarationsOf (synthesisOf .default) nestedInFront).map (·.typeName)).Nodup
    ∧ ∃ a d, (ofFiles .default nestedInFront []).analyze .default 28 = .ok a
      ∧ DeclaredAround (synthesisOf .default) nestedInFront 28 d
      ∧ d.typeName = ⟨"B"⟩ ∧ a.context.source = ⟨"A.B"⟩ := by
  obtain ⟨hdistinct, hsource, hmethod⟩ :
      ((declarationsOf (synthesisOf .default) nestedInFront).map (·.typeName)).Nodup
      ∧ ((ofFiles .default nestedInFront []).analyze .default 28).toOption.map
          (·.context.source) = some ⟨"A.B"⟩
      ∧ (((Java.syntaxView nestedInFront.source.toList nestedInFront.root).nodeAt 28).bind
          ((Java.syntaxView nestedInFront.source.toList nestedInFront.root).enclosingMethod? 1)).map
            (·.enclosingType)
          = some (some ⟨"B"⟩) := by
    decide +kernel
  obtain ⟨a, hok, ha⟩ := ok_of_toOption_map hsource
  obtain ⟨m, hm, hname⟩ := Option.map_eq_some_iff.mp hmethod
  obtain ⟨d, hd, hdname⟩ := exists_declaredAround hm (wellFormed_parsed _).shaped hname
    (synthesisOf .default)
  exact ⟨hdistinct, a, d, hok, hd, hdname, ha⟩

end Project

end BeanMapper
