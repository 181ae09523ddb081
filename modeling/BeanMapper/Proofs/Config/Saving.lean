import BeanMapper.ConfigFile
import BeanMapper.Proofs.FileSystem.Writing
import BeanMapper.Proofs.Json.Records

/-!
# Saving — configurations that are written and read

    A configuration is written as an object with a member for each setting,
    and the settings that are read from that object are the same
    (`config_of_written`); where they were read from is not written.  A file
    gives back what was written into it, and its settings are taken only if
    they are valid, so nothing is lost on the way and nothing invalid comes
    back (`saved_config_loads_back`). -/

namespace BeanMapper

open Json

/-! ## Settings as JSON -/

namespace Schema

/-- A style that is written under a spelling is read back if that spelling leads to it. -/
theorem declarationStyle_string {spelling : String} {style : DeclarationStyle}
    (h : styleSpellings.lookup (plainSpelling spelling) = some style) :
    declarationStyle (Value.string spelling).draft = .ok style := by
  simp only [Value.draft, declarationStyle, Decode.string, h]

theorem declarationStyle_of_written (style : DeclarationStyle) :
    declarationStyle (ofDeclarationStyle style).draft = .ok style := by
  cases style with
  | var => exact declarationStyle_string (by decide +kernel)
  | explicit => exact declarationStyle_string (by decide +kernel)

/-- Written settings fit their form: their only number has 64 bits. -/
theorem fits_ofConfig (c : Config) : (ofConfig c).Fits := by
  have hmarkers : FitItems (c.fluentMarkers.map .string) := fitItems_map fun _ _ => trivial
  have hdepth : c.maxAscentDepth.toNat < 2 ^ 64 := c.maxAscentDepth.toNat_lt
  exact ⟨trivial, trivial, trivial, hmarkers, trivial, hdepth, trivial, trivial, trivial⟩

/-- **Settings are read back** from what is written for them; where they came from is not written. -/
theorem config_of_written (c : Config) :
    config (ofConfig c).draft = .ok { c with loadedFrom := none } := by
  rw [config, ofConfig]
  refine Decode.record_of_fills (by decide +kernel) ?_
  refine .given rfl <| .given rfl <| .given (declarationStyle_of_written c.declarationStyle) <|
    .given (Decode.list_array fun _ _ => rfl) <| .given rfl <|
    .given (Decode.word64_number c.maxAscentDepth) <| .given rfl <| .given rfl ?_
  exact .done _

end Schema

/-! ## Files -/

namespace ConfigFile

variable {fs after : FileSystem} {path start : String} {c : Config}

/-- **What is taken from a written configuration**: the settings if they are valid, and otherwise
    the first fault. -/
theorem parse_text (path : String) (c : Config) :
    parse path (text c) = match c.fault? with
      | some fault => .error (.invalidConfig fault)
      | none => .ok { c with loadedFrom := some path } := by
  have hread : Json.Decode.text Schema.config (text c) = .ok { c with loadedFrom := none } := by
    rw [text, Json.Decode.text_of_written _ _ (Schema.fits_ofConfig c), Schema.config_of_written]
  rw [parse, hread]
  rfl

/-- Where a text can be written, settings can be. -/
theorem exists_save {place : Place} (h : fs.target path = .ok place) (c : Config) :
    ∃ after, save fs path c = .ok after := by
  refine ⟨fs.put place (text c), ?_⟩
  rw [save, FileSystem.write, h]
  rfl

theorem write_of_save (h : save fs path c = .ok after) : fs.write path (text c) = .ok after := by
  rw [save] at h
  split at h
  · exact nomatch h
  · rename_i hwrite
    cases h
    exact hwrite

/-- Loading after saving reads the very text that was saved. -/
theorem load_of_save (h : save fs path c = .ok after) :
    load after path = parse path (text c) := by
  rw [load, FileSystem.read_of_write (write_of_save h)]

/-- Settings that are taken from a file are valid; only where they are from is added to them. -/
theorem fault?_of_parse {contents : String} (h : parse path contents = .ok c) :
    c.fault? = none := by
  rw [parse] at h
  split at h
  · exact nomatch h
  · split at h
    · exact nomatch h
    · rename_i hfault
      cases h
      exact hfault

theorem fault?_default : Config.default.fault? = none := by decide +kernel

/-- Settings that are found break no rule, nor do the default ones. -/
theorem fault?_of_discover (h : discover fs start = .ok c) : c.fault? = none := by
  rw [discover] at h
  split at h
  · rw [load] at h
    split at h
    · exact nomatch h
    · exact fault?_of_parse h
  · cases h
    exact fault?_default

/-- **Saved settings load back, and only valid settings come back.**  Under a path where a file can
    be written, any settings can be saved.  What was saved is loaded as it was, with the path it
    was loaded from, if every setting keeps its rule, and is otherwise refused for the first one
    that does not; and whatever files there are, the settings that are found for a file or a
    directory keep every rule. -/
theorem saved_config_loads_back :
    (∀ fs path c after, save fs path c = .ok after →
      (c.fault? = none → load after path = .ok { c with loadedFrom := some path })
        ∧ ∀ fault, c.fault? = some fault → load after path = .error (.invalidConfig fault))
    ∧ (∀ fs path c place, fs.target path = .ok place → ∃ after, save fs path c = .ok after)
    ∧ ∀ fs start c, discover fs start = .ok c → c.fault? = none := by
  refine ⟨fun fs path c after hsave => ?_, fun fs path c place htarget => exists_save htarget c,
    fun fs start c hdiscover => fault?_of_discover hdiscover⟩
  rw [load_of_save hsave, parse_text]
  constructor
  · intro hvalid
    rw [hvalid]
  · intro fault hfault
    rw [hfault]

/-- Settings with quotation marks, a backslash and control characters in their texts. -/
def markedSettings : Config :=
  { nullLiteral := "/* \"\\\u0001\" */ null", declarationStyle := .explicit,
    fluentMarkers := ["a.Fluent", "é\n"], maxAscentDepth := 18446744073709551615,
    indentUnit := "\t", loadedFrom := some "elsewhere.json" }

/-- Settings with a local variable that is no identifier. -/
def misnamedSettings : Config := { markedSettings with localVariable := "1st" }

/-- Marked settings are loaded from where they were saved; misnamed ones are refused. -/
theorem marked_settings_load_back :
    ∃ marked misnamed, save ⟨[], [], ["work"]⟩ "o2ox.json" markedSettings = .ok marked
      ∧ load marked "o2ox.json" = .ok { markedSettings with loadedFrom := some "o2ox.json" }
      ∧ save ⟨[], [], ["work"]⟩ "o2ox.json" misnamedSettings = .ok misnamed
      ∧ load misnamed "o2ox.json" = .error (.invalidConfig (.localVariable "1st")) := by
  obtain ⟨hloads, hsaves, -⟩ := saved_config_loads_back
  have htarget : FileSystem.target ⟨[], [], ["work"]⟩ "o2ox.json" = .ok ["work", "o2ox.json"] := by
    decide +kernel
  obtain ⟨marked, hmarked⟩ := hsaves _ _ markedSettings _ htarget
  obtain ⟨misnamed, hmisnamed⟩ := hsaves _ _ misnamedSettings _ htarget
  exact ⟨marked, misnamed, hmarked, (hloads _ _ _ _ hmarked).1 (by decide +kernel), hmisnamed,
    (hloads _ _ _ _ hmisnamed).2 _ (by decide +kernel)⟩

end ConfigFile

end BeanMapper
