import BeanMapper.Mapping.Analysis
import BeanMapper.Proofs.Mapping.Fields

/-! # Generation — every setter once, with the last field under its key

    The generated text passes through a table, a filter and one of two
    renderers.  End to end it is a function of the target's setters and of the
    keys of the source's fields:

    * `isSetter_iff` and `setterKey?_eq_some_iff` read a setter off its name;
    * `Takes` says which field a setter is given, `forall₂_takes` that every
      setter has one match, in order;
    * `spelled` is the text with its calls written out one after the other,
      `render_eq_spelled` that both renderers write it;
    * `generateFor_maps_every_setter` is the whole law, with the invariance
      under permutations of the source's fields. -/

namespace BeanMapper

/-! ## Setters -/

namespace Method

/-- The rest of a name behind `set` is what is left of the name. -/
theorem propertyPart?_eq_some_iff {m : Method} {rest : List Char} :
    m.propertyPart? = some rest ↔ m.name = "set" ++ String.ofList rest := by
  have hname : ("set" ++ String.ofList rest).toList = setterMark.toList ++ rest := by
    rw [String.toList_append, @String.toList_ofList rest]
    rfl
  rw [propertyPart?, List.isPrefixOf?_eq_some_iff_append_eq, ← String.toList_inj, hname]
  exact eq_comm

/-- A setter is a method whose name begins with `set`. -/
theorem isSetter_iff {m : Method} : m.isSetter = true ↔ ∃ rest, m.name = "set" ++ rest := by
  rw [isSetter, Option.isSome_iff_exists]
  constructor
  · rintro ⟨rest, hrest⟩
    exact ⟨_, propertyPart?_eq_some_iff.mp hrest⟩
  · rintro ⟨rest, hname⟩
    refine ⟨rest.toList, propertyPart?_eq_some_iff.mpr ?_⟩
    rw [String.ofList_toList]
    exact hname

/-- Being a setter only depends on how the name begins. -/
theorem isSetter_eq_startsWith (m : Method) : m.isSetter = m.name.startsWith "set" := by
  rw [Bool.eq_iff_iff, isSetter_iff, String.startsWith_string_iff]
  constructor
  · rintro ⟨rest, hname⟩
    exact ⟨rest.toList, by rw [hname, String.toList_append]⟩
  · rintro ⟨rest, hrest⟩
    refine ⟨String.ofList rest, ?_⟩
    rw [← String.toList_inj, String.toList_append, ← hrest, @String.toList_ofList rest]

/-- The key of a setter is the lower case of the rest of its name. -/
theorem setterKey?_eq_some_iff {m : Method} {key : String} :
    m.setterKey? = some key ↔ ∃ rest, m.name = "set" ++ rest ∧ lowered rest = key := by
  rw [setterKey?, Option.map_eq_some_iff]
  constructor
  · rintro ⟨rest, hrest, hkey⟩
    refine ⟨String.ofList rest, propertyPart?_eq_some_iff.mp hrest, ?_⟩
    rw [lowered, String.toList_ofList]
    exact hkey
  · rintro ⟨rest, hname, hkey⟩
    refine ⟨rest.toList, propertyPart?_eq_some_iff.mpr ?_, hkey⟩
    rw [String.ofList_toList]
    exact hname

/-- A method has the key of a setter exactly if it is one. -/
theorem setterKey?_isSome (m : Method) : m.setterKey?.isSome = m.isSetter :=
  Option.isSome_map

end Method

/-! ## Matches -/

/-- The match of a setter: its name, and the name of the last field of the source whose lower case
    is that of the setter's name behind `set`. -/
structure Takes (source : Declaration) (m : Method) (x : SetterMatch) : Prop where
  /-- The setter is the method. -/
  setter_eq : x.setter = m.name
  /-- The field is spelled as the last one with the key. -/
  field_iff : ∀ rest, m.name = "set" ++ rest → ∀ name,
    x.field = some name ↔ ∃ f, LastWithKey source.fields (lowered rest) f ∧ f.name = name
  /-- There is none exactly if no field has the key. -/
  none_iff : ∀ rest, m.name = "set" ++ rest →
    (x.field = none ↔ ∀ f ∈ source.fields, lowered f.name ≠ lowered rest)

/-- The match that a method gets, if it is a setter. -/
def matchOf (source : Declaration) (m : Method) : Option SetterMatch :=
  m.setterKey?.map fun key => ⟨m.name, (lastWithKey? source.fields key).map (·.name)⟩

/-- The matches are those of the methods, one by one. -/
theorem matchSetters_eq_filterMap (target source : Declaration) :
    matchSetters target source = target.methods.filterMap (matchOf source) := by
  simp only [matchSetters, find?_fieldTable]
  rfl

/-- A method that is no setter gets no match. -/
theorem matchOf_eq_none {source : Declaration} {m : Method} (h : ¬ m.isSetter = true) :
    matchOf source m = none := by
  rw [← m.setterKey?_isSome, Bool.not_eq_true, Option.isSome_eq_false_iff,
    Option.isNone_iff_eq_none] at h
  rw [matchOf, h, Option.map_none]

/-- A setter gets a match with the last field under its key. -/
theorem exists_matchOf_takes (source : Declaration) {m : Method} (h : m.isSetter = true) :
    ∃ x, matchOf source m = some x ∧ Takes source m x := by
  rw [← m.setterKey?_isSome] at h
  obtain ⟨key, hkey⟩ := Option.isSome_iff_exists.mp h
  refine ⟨⟨m.name, (lastWithKey? source.fields key).map (·.name)⟩, ?_, rfl, ?_, ?_⟩
  · rw [matchOf, hkey, Option.map_some]
  · intro rest hname name
    have hrest : m.setterKey? = some (lowered rest) :=
      Method.setterKey?_eq_some_iff.mpr ⟨rest, hname, rfl⟩
    obtain rfl : key = lowered rest := Option.some.inj (hkey.symm.trans hrest)
    show (lastWithKey? source.fields (lowered rest)).map (·.name) = some name ↔ _
    rw [Option.map_eq_some_iff]
    simp only [lastWithKey?_eq_some_iff]
  · intro rest hname
    have hrest : m.setterKey? = some (lowered rest) :=
      Method.setterKey?_eq_some_iff.mpr ⟨rest, hname, rfl⟩
    obtain rfl : key = lowered rest := Option.some.inj (hkey.symm.trans hrest)
    show (lastWithKey? source.fields (lowered rest)).map (·.name) = none ↔ _
    rw [Option.map_eq_none_iff, lastWithKey?_eq_none_iff]

/-- **Every setter has one match**, in the order of the methods, and nothing else has one. -/
theorem forall₂_takes (target source : Declaration) :
    List.Forall₂ (Takes source) target.setters (matchSetters target source) := by
  rw [matchSetters_eq_filterMap, Declaration.setters]
  induction target.methods with
  | nil => exact List.Forall₂.nil
  | cons m methods ih =>
      by_cases hm : m.isSetter = true
      · obtain ⟨x, hx, htakes⟩ := exists_matchOf_takes source hm
        rw [List.filter_cons_of_pos hm, List.filterMap_cons_some hx]
        exact List.Forall₂.cons htakes ih
      · rw [List.filter_cons_of_neg hm, List.filterMap_cons_none (matchOf_eq_none hm)]
        exact ih

/-- Where no two fields of the source share a key, their order does not count. -/
theorem matchSetters_perm (target source : Declaration) {fields : List Field}
    (hperm : source.fields.Perm fields)
    (hdistinct : (source.fields.map fun f => lowered f.name).Nodup) :
    matchSetters target { source with fields := fields } = matchSetters target source := by
  have hmatch : matchOf { source with fields := fields } = matchOf source := by
    funext m
    simp only [matchOf, lastWithKey?_perm hperm hdistinct]
  rw [matchSetters_eq_filterMap, matchSetters_eq_filterMap, hmatch]

/-! ## Texts -/

namespace Snippet

/-- The text of a snippet with its calls written out: what comes first, for each call a setter and
    its argument on a line of their own, and what comes last. -/
def spelled (target : String) (options : RenderOptions) (calls : List (String × String)) :
    Mode → String
  | .chainedBuilder =>
      "return new " ++ target ++ "()"
        ++ String.join (calls.map fun c => "\n." ++ c.1 ++ "(" ++ c.2 ++ ")")
        ++ ";"
  | .imperativeAssignment =>
      declaredAs target options.declarationStyle ++ " " ++ options.localVariable ++ " = new "
          ++ target ++ "();"
        ++ String.join
            (calls.map fun c => "\n" ++ options.localVariable ++ "." ++ c.1 ++ "(" ++ c.2 ++ ");")
        ++ ("\nreturn " ++ options.localVariable ++ ";")

/-- Lines behind a first one each come after a newline. -/
theorem joinLines_cons (first : String) (rest : List String) :
    joinLines (first :: rest) = first ++ String.join (rest.map ("\n" ++ ·)) := by
  unfold joinLines
  induction rest generalizing first with
  | nil => rw [String.intercalate_singleton, List.map_nil, String.join_nil, String.append_empty]
  | cons second rest ih =>
      rw [String.intercalate_cons_cons, ih, List.map_cons, String.join_cons]
      simp only [String.append_assoc]

/-- The text of a list of strings, and of one more at its end. -/
theorem join_concat (texts : List String) (last : String) :
    String.join (texts ++ [last]) = String.join texts ++ last := by
  rw [← String.toList_inj]
  simp only [String.toList_join, String.toList_append, List.flatMap_append, List.flatMap_cons,
    List.flatMap_nil, List.append_nil]

/-- A call on its own line in the chained mode. -/
theorem chained_line (options : RenderOptions) (m : SetterMatch) :
    "\n" ++ call options "" m
      = "\n." ++ m.setter ++ "(" ++ m.field.getD options.nullLiteral ++ ")" := by
  have hdot : "\n" ++ "." = "\n." := rfl
  rw [← hdot, call, argument, String.empty_append]
  simp only [String.append_assoc]

/-- A call on its own line in the imperative mode. -/
theorem imperative_line (options : RenderOptions) (m : SetterMatch) :
    "\n" ++ (call options options.localVariable m ++ ";")
      = "\n" ++ options.localVariable ++ "." ++ m.setter ++ "("
          ++ m.field.getD options.nullLiteral ++ ");" := by
  have hend : ")" ++ ";" = ");" := rfl
  rw [← hend, call, argument]
  simp only [String.append_assoc]

/-- **Both renderers write the calls out**, one for each match, with its field or the null
    literal. -/
theorem render_eq_spelled (mode : Mode) (target : String) (ms : List SetterMatch)
    (options : RenderOptions) :
    render mode target ms options
      = spelled target options
          (ms.map fun m => (m.setter, m.field.getD options.nullLiteral)) mode := by
  cases mode with
  | chainedBuilder =>
      have hlines : (ms.map (call options "")).map ("\n" ++ ·)
          = (ms.map fun m => (m.setter, m.field.getD options.nullLiteral)).map
              fun c => "\n." ++ c.1 ++ "(" ++ c.2 ++ ")" := by
        rw [List.map_map, List.map_map]
        exact List.map_congr_left fun m _ => chained_line options m
      show chained target ms options = _
      rw [chained, joinLines_cons, hlines, spelled]
  | imperativeAssignment =>
      have hlines : (ms.map fun m => call options options.localVariable m ++ ";").map ("\n" ++ ·)
          = (ms.map fun m => (m.setter, m.field.getD options.nullLiteral)).map
              fun c => "\n" ++ options.localVariable ++ "." ++ c.1 ++ "(" ++ c.2 ++ ");" := by
        rw [List.map_map, List.map_map]
        exact List.map_congr_left fun m _ => imperative_line options m
      have hlast : "\n" ++ ("return " ++ options.localVariable ++ ";")
          = "\nreturn " ++ options.localVariable ++ ";" := by
        have hword : "\n" ++ "return " = "\nreturn " := rfl
        rw [← hword]
        simp only [String.append_assoc]
      show imperative target ms options = _
      rw [imperative, List.cons_append, joinLines_cons, List.map_append, hlines, List.map_cons,
        List.map_nil, join_concat, hlast, spelled, ← String.append_assoc]

end Snippet

/-! ## The whole mapping -/

/-- **The mapping end to end.**  Each method of the target whose name begins with `set` has one
    match, in the order of the methods, with the last field of the source under its key; the text
    calls exactly these setters in this order, each with its field or the null literal; and where
    no two fields of the source share a key their order does not count. -/
theorem generateFor_maps_every_setter (config : Config) (target source : Declaration) :
    List.Forall₂ (Takes source) (target.methods.filter (·.name.startsWith "set"))
      (generateFor config target source).matched
    ∧ (generateFor config target source).text
        = Snippet.spelled target.typeName.name config.renderOptions
            ((generateFor config target source).matched.map fun x =>
              (x.setter, x.field.getD config.nullLiteral))
            (generateFor config target source).mode
    ∧ ∀ fields, source.fields.Perm fields →
        (source.fields.map fun f => lowered f.name).Nodup →
        generateFor config target { source with fields := fields }
          = generateFor config target source := by
  refine ⟨?_, ?_, ?_⟩
  · have hsetters : target.methods.filter (·.name.startsWith "set") = target.setters :=
      List.filter_congr fun m _ => (Method.isSetter_eq_startsWith m).symm
    rw [hsetters]
    exact forall₂_takes target source
  · exact Snippet.render_eq_spelled _ _ _ config.renderOptions
  · intro fields hperm hdistinct
    have hmatched := matchSetters_perm target source hperm hdistinct
    simp only [generateFor, hmatched]

/-- Two fields that share no key may be exchanged, and a bare `set` is a setter without a field. -/
theorem generateFor_maps_exchanged_fields :
    [(⟨"id", ⟨"Order"⟩⟩ : Field), ⟨"tag", ⟨"Order"⟩⟩].Perm [⟨"tag", ⟨"Order"⟩⟩, ⟨"id", ⟨"Order"⟩⟩]
    ∧ ([(⟨"id", ⟨"Order"⟩⟩ : Field), ⟨"tag", ⟨"Order"⟩⟩].map fun f => lowered f.name).Nodup
    ∧ generateFor .default
          (((Declaration.ofClass "Dto").withMethod ⟨"setID", 1, .void⟩).withMethod ⟨"set", 0, .void⟩)
          ⟨⟨"Order"⟩, .classType, [⟨"tag", ⟨"Order"⟩⟩, ⟨"id", ⟨"Order"⟩⟩], [], [], none⟩
        = generateFor .default
          (((Declaration.ofClass "Dto").withMethod ⟨"setID", 1, .void⟩).withMethod ⟨"set", 0, .void⟩)
          ⟨⟨"Order"⟩, .classType, [⟨"id", ⟨"Order"⟩⟩, ⟨"tag", ⟨"Order"⟩⟩], [], [], none⟩ := by
  have hperm : [(⟨"id", ⟨"Order"⟩⟩ : Field), ⟨"tag", ⟨"Order"⟩⟩].Perm
      [⟨"tag", ⟨"Order"⟩⟩, ⟨"id", ⟨"Order"⟩⟩] := List.Perm.swap _ _ _
  have hdistinct :
      ([(⟨"id", ⟨"Order"⟩⟩ : Field), ⟨"tag", ⟨"Order"⟩⟩].map fun f => lowered f.name).Nodup := by
    decide +kernel
  exact ⟨hperm, hdistinct, (generateFor_maps_every_setter .default _
    ⟨⟨"Order"⟩, .classType, [⟨"id", ⟨"Order"⟩⟩, ⟨"tag", ⟨"Order"⟩⟩], [], [], none⟩).2.2 _ hperm
      hdistinct⟩

end BeanMapper
