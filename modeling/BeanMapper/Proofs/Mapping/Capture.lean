import BeanMapper.Proofs.Mapping.Generation

/-! # Capture — what the arguments of a snippet denote

    An imperative snippet declares a variable, and the names that it passes to
    setters stand behind this declaration.  A field that is spelled like the
    variable is hidden by it:

    * `Snippet.denoted` says what a name denotes in a snippet, `KeepsFields`
      that every setter is given the field it was matched with;
    * `exists_match_iff` says when a setter takes a field of a given spelling;
    * `Captures` is this condition for the name of the variable;
    * `keepsFields_iff` puts them together: **a snippet keeps the fields
      exactly if it is chained or its variable is spelled like none of them**,
      and `generateFor_captures_result` shows that the settings of a run
      without a configuration can fail to. -/

namespace BeanMapper

namespace Snippet

/-- What a name that is passed to a setter denotes. -/
inductive Denoted where
  /-- The variable that the snippet declares. -/
  | variable
  /-- The field of this name. -/
  | field (name : String)
deriving DecidableEq

/-- A name denotes the variable that the snippet declares, if it has its spelling, and else the
    field; a chained snippet declares none. -/
def denoted (options : RenderOptions) (name : String) : Mode → Denoted
  | .chainedBuilder => .field name
  | .imperativeAssignment =>
      if name = options.localVariable then .variable else .field name

/-- A name denotes the field unless the snippet declares a variable of its spelling. -/
theorem denoted_eq_field_iff {options : RenderOptions} {name : String} {mode : Mode} :
    denoted options name mode = .field name ↔
      mode = .chainedBuilder ∨ name ≠ options.localVariable := by
  cases mode with
  | chainedBuilder => simp [denoted]
  | imperativeAssignment => by_cases h : name = options.localVariable <;> simp [denoted, h]

end Snippet

/-- Every setter that was matched with a field is given this field. -/
def KeepsFields (config : Config) (g : GeneratedText) : Prop :=
  ∀ x ∈ g.matched, ∀ name, x.field = some name →
    Snippet.denoted config.renderOptions name g.mode = .field name

/-- The variable of a configuration is spelled like a field that a setter of the target takes from
    the source. -/
structure Captures (config : Config) (target source : Declaration) : Prop where
  /-- A setter of the target has the key of this spelling. -/
  setter : ∃ m ∈ target.methods, m.setterKey? = some (lowered config.localVariable)
  /-- The last field of the source with this key has the spelling itself. -/
  field : ∃ f, LastWithKey source.fields (lowered config.localVariable) f
    ∧ f.name = config.localVariable

/-- What is matched with a setter is spelled like the last field under its key. -/
theorem field_of_matchOf {source : Declaration} {m : Method} {x : SetterMatch} {name : String}
    (hx : matchOf source m = some x) (hname : x.field = some name) :
    m.setterKey? = some (lowered name)
      ∧ ∃ f, LastWithKey source.fields (lowered name) f ∧ f.name = name := by
  obtain ⟨key, hkey, rfl⟩ := Option.map_eq_some_iff.mp hx
  obtain ⟨f, hf, rfl⟩ := Option.map_eq_some_iff.mp hname
  have hlast := lastWithKey?_eq_some_iff.mp hf
  -- the key of the setter is the key of the field
  rw [hlast.key_eq]
  exact ⟨hkey, f, hlast, rfl⟩

/-- **A setter takes a field of a given spelling** exactly if it has the key of this spelling and the
    last field with the key is spelled so. -/
theorem exists_match_iff {target source : Declaration} {name : String} :
    (∃ x ∈ matchSetters target source, x.field = some name) ↔
      (∃ m ∈ target.methods, m.setterKey? = some (lowered name))
        ∧ ∃ f, LastWithKey source.fields (lowered name) f ∧ f.name = name := by
  rw [matchSetters_eq_filterMap]
  constructor
  · rintro ⟨x, hx, hname⟩
    obtain ⟨m, hm, hmatch⟩ := List.mem_filterMap.mp hx
    obtain ⟨hkey, hfield⟩ := field_of_matchOf hmatch hname
    exact ⟨⟨m, hm, hkey⟩, hfield⟩
  · rintro ⟨⟨m, hm, hkey⟩, f, hlast, hf⟩
    have hmatch : matchOf source m = some ⟨m.name, some name⟩ := by
      rw [matchOf, hkey, Option.map_some, lastWithKey?_eq_some_iff.mpr hlast, Option.map_some, hf]
    exact ⟨_, List.mem_filterMap.mpr ⟨m, hm, hmatch⟩, rfl⟩

/-- **When a snippet keeps the fields of its source.**  Some setter is matched with the spelling of
    the variable exactly if a setter of the target has its key and the last field of the source
    with this key is spelled like it.  Every setter is given the field it was matched with exactly
    if the snippet is chained or this is not so. -/
theorem keepsFields_iff (config : Config) (target source : Declaration) :
    ((∃ x ∈ (generateFor config target source).matched, x.field = some config.localVariable) ↔
      Captures config target source)
    ∧ (KeepsFields config (generateFor config target source) ↔
        (generateFor config target source).mode = .chainedBuilder
          ∨ ¬ Captures config target source) := by
  have hcaptures : (∃ x ∈ (generateFor config target source).matched,
      x.field = some config.localVariable) ↔ Captures config target source :=
    exists_match_iff.trans ⟨fun h => ⟨h.1, h.2⟩, fun h => ⟨h.setter, h.field⟩⟩
  refine ⟨hcaptures, ?_⟩
  rw [← hcaptures]
  constructor
  · intro hkeeps
    by_cases hmode : (generateFor config target source).mode = .chainedBuilder
    · exact .inl hmode
    · refine .inr fun ⟨x, hx, hname⟩ => ?_
      rcases Snippet.denoted_eq_field_iff.mp (hkeeps x hx _ hname) with h | h
      · exact hmode h
      · exact h rfl
  · intro h x hx name hname
    refine Snippet.denoted_eq_field_iff.mpr (h.imp_right fun hnone heq => ?_)
    refine hnone ⟨x, hx, ?_⟩
    rw [hname, heq]
    rfl

/-- With the settings of a run without a configuration, which are valid, a field `result` is hidden:
    the snippet passes the new object to its own setter. -/
theorem generateFor_captures_result :
    Config.default.isValid = true
    ∧ (generateFor .default ((Declaration.ofClass "OrderDTO").withMethod ⟨"setResult", 1, .void⟩)
        ((Declaration.ofClass "Order").withField "result")).mode = .imperativeAssignment
    ∧ (∃ x ∈ (generateFor .default
          ((Declaration.ofClass "OrderDTO").withMethod ⟨"setResult", 1, .void⟩)
          ((Declaration.ofClass "Order").withField "result")).matched,
        x.field = some Config.default.localVariable)
    ∧ (generateFor .default ((Declaration.ofClass "OrderDTO").withMethod ⟨"setResult", 1, .void⟩)
        ((Declaration.ofClass "Order").withField "result")).text
        = "var result = new OrderDTO();\nresult.setResult(result);\nreturn result;" := by
  decide +kernel

end BeanMapper
