import BeanMapper.Proofs.Json.Records
import BeanMapper.Proofs.Unicode.Case
import BeanMapper.Schema.Config

/-!
# Partial settings — a text overrides what it mentions

    A configuration is read from an object that may mention any of the
    settings, in any order and among keys that are none, so what is said of
    such a text is said entry by entry:

    * `SettingText` says how the value of a setting may be spelled, and
      `EntryText` what an entry is: a setting with its value, or some other
      key with any value (`exists_configText` gives a text for every selection
      of settings);
    * `TakesEntry` is the step: behind an entry, one more setting has the value of
      the configuration, or none more (`takes_of_entryText`);
    * the run is an induction on the entries (`membersReadAs_entriesText`).
      Its invariant is that what was read so far is the default with the
      settings replaced that were given so far, and that these are the keys
      that were seen.

    `config_of_configText`: **every selection of settings has a text, and the
    settings that are read are the default ones with those replaced that the
    text mentions.** -/

namespace BeanMapper

open Json Json.Draft

/-- A setting that can be given in a text. -/
inductive Setting where
  | localVariable
  | nullLiteral
  | declarationStyle
  | fluentMarkers
  | synthesizeLombokSetters
  | maxAscentDepth
  | reindent
  | indentUnit
deriving DecidableEq

/-- The default settings with the given ones replaced by those of `c`. -/
def Config.overridden (c : Config) (given : List Setting) : Config where
  localVariable :=
    if .localVariable ∈ given then c.localVariable else Config.default.localVariable
  nullLiteral := if .nullLiteral ∈ given then c.nullLiteral else Config.default.nullLiteral
  declarationStyle :=
    if .declarationStyle ∈ given then c.declarationStyle else Config.default.declarationStyle
  fluentMarkers :=
    if .fluentMarkers ∈ given then c.fluentMarkers else Config.default.fluentMarkers
  synthesizeLombokSetters :=
    if .synthesizeLombokSetters ∈ given then c.synthesizeLombokSetters
    else Config.default.synthesizeLombokSetters
  maxAscentDepth :=
    if .maxAscentDepth ∈ given then c.maxAscentDepth else Config.default.maxAscentDepth
  reindent := if .reindent ∈ given then c.reindent else Config.default.reindent
  indentUnit := if .indentUnit ∈ given then c.indentUnit else Config.default.indentUnit
  loadedFrom := Config.default.loadedFrom

namespace Config

variable {c : Config} {given : List Setting}

theorem overridden_nil (c : Config) : c.overridden [] = Config.default := rfl

/-- The order in which settings are given does not matter. -/
theorem overridden_reverse (c : Config) (given : List Setting) :
    c.overridden given.reverse = c.overridden given := by
  simp only [overridden, List.mem_reverse]

end Config

namespace Setting

/-- The settings in the order of their fields. -/
def all : List Setting :=
  [.localVariable, .nullLiteral, .declarationStyle, .fluentMarkers, .synthesizeLombokSetters,
   .maxAscentDepth, .reindent, .indentUnit]

/-- The key of a setting. -/
def key : Setting → String
  | .localVariable => "local_variable"
  | .nullLiteral => "null_literal"
  | .declarationStyle => "declaration_style"
  | .fluentMarkers => "fluent_markers"
  | .synthesizeLombokSetters => "synthesize_lombok_setters"
  | .maxAscentDepth => "max_ascent_depth"
  | .reindent => "reindent"
  | .indentUnit => "indent_unit"

/-- The field that a setting is read into. -/
def slot (s : Setting) : Decode.Slot Config :=
  match s with
  | .localVariable => Decode.slot s.key .defaulted Decode.string fun localVariable c =>
      { c with localVariable }
  | .nullLiteral => Decode.slot s.key .defaulted Decode.string fun nullLiteral c =>
      { c with nullLiteral }
  | .declarationStyle =>
      Decode.slot s.key .defaulted Schema.declarationStyle fun declarationStyle c =>
        { c with declarationStyle }
  | .fluentMarkers =>
      Decode.slot s.key .defaulted (Decode.list Decode.string) fun fluentMarkers c =>
        { c with fluentMarkers }
  | .synthesizeLombokSetters =>
      Decode.slot s.key .defaulted Decode.bool fun synthesizeLombokSetters c =>
        { c with synthesizeLombokSetters }
  | .maxAscentDepth => Decode.slot s.key .defaulted Decode.word64 fun maxAscentDepth c =>
      { c with maxAscentDepth }
  | .reindent => Decode.slot s.key .defaulted Decode.bool fun reindent c => { c with reindent }
  | .indentUnit => Decode.slot s.key .defaulted Decode.string fun indentUnit c =>
      { c with indentUnit }

/-- The fields of a configuration. -/
def slots : List (Decode.Slot Config) := all.map slot

theorem key_slot (s : Setting) : s.slot.key = s.key := by
  cases s <;> rfl

theorem presence_slot (s : Setting) : s.slot.presence = .defaulted := by
  cases s <;> rfl

theorem key_injective : Function.Injective key := by
  intro s t h
  revert h
  cases s <;> cases t <;> decide

/-- A setting is found by its key. -/
theorem find?_key (s : Setting) : slots.find? (·.key == s.key) = some s.slot := by
  have hall : all.find? (·.key == s.key) = some s := by
    cases s <;> decide +kernel
  rw [slots, List.find?_map]
  simp only [Function.comp_def, key_slot, hall, Option.map_some]

/-- A name that is no key of a setting has no slot. -/
theorem find?_unknown {name : String} (h : ∀ s : Setting, s.key ≠ name) :
    slots.find? (·.key == name) = none := by
  rw [List.find?_eq_none]
  intro f hf
  obtain ⟨s, -, rfl⟩ := List.mem_map.mp hf
  simpa only [key_slot, beq_iff_eq] using h s

/-- Every setting may be left out. -/
theorem firstMissing?_slots (seen : List String) : Decode.firstMissing? slots seen = none := by
  rw [Decode.firstMissing?, Option.map_eq_none_iff, List.find?_eq_none]
  intro f hf
  obtain ⟨s, -, rfl⟩ := List.mem_map.mp hf
  rw [presence_slot]
  exact Bool.false_ne_true

end Setting

theorem Schema.config_eq :
    Schema.config = Decode.record "Config" Setting.slots Config.default := rfl

/-! ## Values of settings -/

/-- White space around a text is trimmed off. -/
theorem Text.trim_padded {before word after : List Char}
    (hbefore : ∀ c ∈ before, Unicode.isWhiteSpace c = true)
    (hafter : ∀ c ∈ after, Unicode.isWhiteSpace c = true)
    (hword : ∀ c ∈ word, Unicode.isWhiteSpace c = false) (hne : word ≠ []) :
    trim (before ++ word ++ after) = word := by
  have hkeep : ∀ cs : List Char, cs ≠ [] → (∀ c ∈ cs, Unicode.isWhiteSpace c = false) →
      ∀ rest, (cs ++ rest).dropWhile Unicode.isWhiteSpace = cs ++ rest := by
    intro cs hcs hnot rest
    obtain ⟨c, more, rfl⟩ := List.exists_cons_of_ne_nil hcs
    exact List.dropWhile_cons_of_neg (by simp [hnot c List.mem_cons_self])
  have hback := hkeep word.reverse (by simpa using hne)
    (fun c hc => hword c (List.mem_reverse.mp hc)) []
  rw [List.append_nil] at hback
  rw [trim, trimStart, List.append_assoc, List.dropWhile_append_of_pos hbefore,
    hkeep word hne hword, trimEnd, List.reverse_append, List.dropWhile_append_of_pos, hback,
    List.reverse_reverse]
  exact fun c hc => hafter c (List.mem_reverse.mp hc)

/-- A style of the local variable: one of its spellings, in any case and with white space around
    it. -/
inductive StyleText (style : DeclarationStyle) (text : String) : Prop where
  | mk {name : String} {before word after : List Char}
      (hname : (name, style) ∈ Schema.styleSpellings)
      (hword : word.map Char.toLower = name.toList)
      (hbefore : ∀ c ∈ before, Unicode.isWhiteSpace c = true)
      (hafter : ∀ c ∈ after, Unicode.isWhiteSpace c = true)
      (htext : text.toList = before ++ word ++ after)

/-- The spellings of the styles are small letters. -/
theorem Schema.small_of_mem_styleSpellings {entry : String × DeclarationStyle}
    (h : entry ∈ styleSpellings) :
    entry.1.toList ≠ [] ∧ ∀ c ∈ entry.1.toList, 97 ≤ c.toNat ∧ c.toNat ≤ 122 := by
  have hall : ∀ entry ∈ styleSpellings, entry.1.toList ≠ []
      ∧ entry.1.toList.all (fun c => decide (97 ≤ c.toNat ∧ c.toNat ≤ 122)) = true := by
    decide +kernel
  obtain ⟨hne, hsmall⟩ := hall entry h
  exact ⟨hne, fun c hc => of_decide_eq_true (List.all_eq_true.mp hsmall c hc)⟩

theorem Schema.lookup_of_mem_styleSpellings : ∀ entry ∈ styleSpellings,
    styleSpellings.lookup entry.1 = some entry.2 := by
  decide +kernel

/-- **A style is read in any case and with white space around it.** -/
theorem Schema.declarationStyle_of_styleText {style : DeclarationStyle} {text : String}
    (h : StyleText style text) : declarationStyle (.string text) = .ok style := by
  obtain ⟨hname, hword, hbefore, hafter, htext⟩ := h
  rename_i name before word after
  obtain ⟨hnonempty, hsmall⟩ := small_of_mem_styleSpellings hname
  have hletter : ∀ c ∈ word, Unicode.IsAsciiLetter c.toNat := fun c hc =>
    Unicode.isAsciiLetter_of_toLower
      (hsmall c.toLower (hword ▸ List.mem_map_of_mem hc))
  have hascii : ∀ c ∈ word, c.toNat < 128 := by
    intro c hc
    have hc := hletter c hc
    rw [Unicode.IsAsciiLetter] at hc
    omega
  have hne : word ≠ [] := by
    rintro rfl
    exact hnonempty hword.symm
  have hplain : plainSpelling text = name := by
    rw [plainSpelling, htext, Text.trim_padded hbefore hafter
      (fun c hc => Unicode.isWhiteSpace_of_isAsciiLetter (hletter c hc)) hne,
      Unicode.lower_of_ascii hascii, hword, String.ofList_toList]
  simp only [declarationStyle, Decode.string, hplain, lookup_of_mem_styleSpellings _ hname]

/-- How the value of a setting of `c` may be spelled. -/
inductive SettingText (c : Config) : Setting → List Char → Prop where
  | localVariable {cs : List Char} (h : StringText c.localVariable cs) :
      SettingText c .localVariable cs
  | nullLiteral {cs : List Char} (h : StringText c.nullLiteral cs) : SettingText c .nullLiteral cs
  | declarationStyle {text : String} {cs : List Char} (hstyle : StyleText c.declarationStyle text)
      (h : StringText text cs) : SettingText c .declarationStyle cs
  | fluentMarkers {cs : List Char} (h : Decode.ListText StringText c.fluentMarkers cs) :
      SettingText c .fluentMarkers cs
  | synthesizeLombokSetters :
      SettingText c .synthesizeLombokSetters (boolText c.synthesizeLombokSetters)
  | maxAscentDepth : SettingText c .maxAscentDepth (toString c.maxAscentDepth.toNat).toList
  | reindent : SettingText c .reindent (boolText c.reindent)
  | indentUnit {cs : List Char} (h : StringText c.indentUnit cs) : SettingText c .indentUnit cs

variable {c : Config} {s : Setting} {cs key value : List Char}

/-- A decoder takes the value of a setting out of what is read for it. -/
theorem put_setting {α : Type} {inner : Decoder α} {a : α} {set : α → Config → Config}
    (hslot : s.slot = Decode.slot s.key .defaulted inner set)
    (hset : ∀ given, set a (c.overridden given) = c.overridden (s :: given))
    (hread : ReadsAs cs (inner · = .ok a)) :
    ReadsAs cs fun d => ∀ given,
      s.slot.put d (c.overridden given) = .ok (c.overridden (s :: given)) := by
  refine hread.mono fun d hd given => ?_
  rw [hslot, Decode.put_slot hd, hset]

/-- A style is read from any text for it. -/
theorem readsAs_declarationStyle {style : DeclarationStyle} {text : String}
    (hstyle : StyleText style text) (h : StringText text cs) :
    ReadsAs cs (Schema.declarationStyle · = .ok style) := by
  refine (readsAs_stringText h).mono ?_
  rintro d rfl
  exact Schema.declarationStyle_of_styleText hstyle

/-- **The value of a setting is put in the place of the default**, whatever was given before. -/
theorem readsAs_settingText (h : SettingText c s cs) :
    ReadsAs cs fun d => ∀ given,
      s.slot.put d (c.overridden given) = .ok (c.overridden (s :: given)) := by
  cases h with
  | localVariable h => exact put_setting rfl (by simp [Config.overridden]) (Decode.readsAs_string h)
  | nullLiteral h => exact put_setting rfl (by simp [Config.overridden]) (Decode.readsAs_string h)
  | declarationStyle hstyle h =>
      exact put_setting rfl (by simp [Config.overridden]) (readsAs_declarationStyle hstyle h)
  | fluentMarkers h =>
      exact put_setting rfl (by simp [Config.overridden]) (h.readsAs
        (fun _ _ => Decode.readsAs_string) fun _ _ => StringText.opensValue)
  | synthesizeLombokSetters =>
      exact put_setting rfl (by simp [Config.overridden]) (Decode.readsAs_bool _)
  | maxAscentDepth => exact put_setting rfl (by simp [Config.overridden]) (Decode.readsAs_word64 _)
  | reindent => exact put_setting rfl (by simp [Config.overridden]) (Decode.readsAs_bool _)
  | indentUnit h => exact put_setting rfl (by simp [Config.overridden]) (Decode.readsAs_string h)

/-! ## Entries -/

/-- An entry of a configuration by its key and its value: a setting of `c`, or some other key with
    any value. -/
inductive EntryText (c : Config) : Option Setting → List Char → List Char → Prop where
  | known {s : Setting} {key value : List Char} (hkey : StringText s.key key)
      (hvalue : SettingText c s value) : EntryText c (some s) key value
  | unknown {name : String} {key value : List Char} (hname : ∀ s : Setting, s.key ≠ name)
      (hkey : StringText name key) (hvalue : ValueText value) : EntryText c none key value

/-- The entries of a configuration, in any order. -/
inductive EntriesText (c : Config) : List (Option Setting) → List Char → Prop where
  | last {e : Option Setting} {key k value v : List Char} (h : EntryText c e key value)
      (hk : Padded key k) (hv : Padded value v) : EntriesText c [e] (k ++ ':' :: v)
  | more {e : Option Setting} {es : List (Option Setting)} {key k value v more : List Char}
      (h : EntryText c e key value) (hk : Padded key k) (hv : Padded value v)
      (hmore : EntriesText c es more) : EntriesText c (e :: es) (k ++ ':' :: (v ++ ',' :: more))

/-- The settings among the entries. -/
def settingsOf (es : List (Option Setting)) : List Setting := es.filterMap id

/-- An object that gives some settings of `c`. -/
inductive ObjectText (c : Config) : List Setting → List Char → Prop where
  | empty {gap : List Char} (h : IsGap gap) : ObjectText c [] ('\x7b' :: (gap ++ ['\x7d']))
  | entries {es : List (Option Setting)} {cs : List Char} (h : EntriesText c es cs) :
      ObjectText c (settingsOf es) ('\x7b' :: (cs ++ ['\x7d']))

/-- A text with an object that gives some settings of `c`. -/
def ConfigText (c : Config) (given : List Setting) (text : String) : Prop :=
  ∃ core, ObjectText c given core ∧ Padded core text.toList

/-- An entry is taken: its setting, if it has one, is added to those that are given. -/
def TakesEntry (c : Config) (e : Option Setting) (k d : Draft) : Prop :=
  ∀ given ms, (∀ s ∈ e, s ∉ given) →
    Decode.members Setting.slots (given.map Setting.key) (c.overridden given) (.member k d ms)
      = Decode.members Setting.slots ((e.toList ++ given).map Setting.key)
          (c.overridden (e.toList ++ given)) ms

/-- The entry of a setting sets it. -/
theorem takes_known {d : Draft}
    (h : ∀ given, s.slot.put d (c.overridden given) = .ok (c.overridden (s :: given))) :
    TakesEntry c (some s) (.string s.key) d := by
  intro given ms hfresh
  have hseen : (given.map Setting.key).contains s.key = false := by
    simpa [Setting.key_injective.eq_iff] using hfresh s rfl
  simp only [Decode.members, Decode.key, Setting.find?_key, hseen, h given, Bool.false_eq_true,
    if_false]
  rfl

/-- An entry under another name is passed over. -/
theorem takes_unknown {name : String} {d : Draft} (hname : ∀ s : Setting, s.key ≠ name)
    (h : d.skipFault? = none) : TakesEntry c none (.string name) d := by
  intro given ms _
  simp only [Decode.members, Decode.key, Setting.find?_unknown hname, Decode.skip, h]
  rfl

/-- **An entry is read as something that is taken.** -/
theorem takes_of_entryText {e : Option Setting} (h : EntryText c e key value) :
    ∃ (K P : Draft → Prop), ReadsAs key K ∧ ReadsAs value P ∧ ∀ k d, K k → P d → TakesEntry c e k d := by
  cases h with
  | known hkey hvalue =>
      refine ⟨_, _, readsAs_stringText hkey, readsAs_settingText hvalue, ?_⟩
      rintro k d rfl hd
      exact takes_known hd
  | unknown hname hkey hvalue =>
      refine ⟨_, _, readsAs_stringText hkey, readsAs_valueText hvalue, ?_⟩
      rintro k d rfl hd
      exact takes_unknown hname hd

/-- Entries open with the quote of the first key. -/
theorem EntriesText.opensValue {es : List (Option Setting)} (h : EntriesText c es cs) :
    OpensValue cs := by
  have hentry {e : Option Setting} {key k value : List Char} (h : EntryText c e key value)
      (hk : Padded key k) (rest : List Char) : OpensValue (k ++ rest) := by
    cases h with
    | known hkey _ => exact (hkey.opensValue.padded hk).append _
    | unknown _ hkey _ => exact (hkey.opensValue.padded hk).append _
  cases h with
  | last h hk _ => exact hentry h hk _
  | more h hk _ _ => exact hentry h hk _

theorem settingsOf_cons (e : Option Setting) (es : List (Option Setting)) :
    settingsOf (e :: es) = e.toList ++ settingsOf es := by
  cases e <;> rfl

/-- Where every entry gives a setting, these are the settings. -/
theorem settingsOf_map_some (given : List Setting) : settingsOf (given.map some) = given := by
  rw [settingsOf, List.filterMap_map]
  exact List.filterMap_some

/-- **The entries are taken one by one**; by induction on them.  What was read before them is the
    default with the settings `before` replaced. -/
theorem membersReadAs_entriesText {es : List (Option Setting)} (h : EntriesText c es cs) :
    MembersReadAs cs fun ms => ∀ before, (settingsOf es ++ before).Nodup →
      Decode.members Setting.slots (before.map Setting.key) (c.overridden before) ms
        = .ok (c.overridden ((settingsOf es).reverse ++ before)) := by
  -- no setting is among those that were given before
  have hfresh {e : Option Setting} {es : List (Option Setting)} {before : List Setting}
      (h : (settingsOf (e :: es) ++ before).Nodup) : ∀ s ∈ e, s ∉ before := by
    rintro s rfl hmem
    exact (List.nodup_cons.mp h).1 (List.mem_append_right _ hmem)
  induction h with
  | @last e key k value v h hk hv =>
      obtain ⟨K, P, hkey, hvalue, htakes⟩ := takes_of_entryText h
      refine (membersReadAs_last hkey hk hvalue hv).mono ?_
      rintro ms ⟨n, d, hn, hd, rfl⟩ before hnodup
      rw [htakes n d hn hd before .closed (hfresh hnodup), Decode.members,
        Setting.firstMissing?_slots]
      cases e <;> rfl
  | @more e es key k value v more h hk hv _ ih =>
      obtain ⟨K, P, hkey, hvalue, htakes⟩ := takes_of_entryText h
      refine (membersReadAs_more hkey hk hvalue hv ih).mono ?_
      rintro ms ⟨n, d, ms', hn, hd, hms, rfl⟩ before hnodup
      rw [htakes n d hn hd before ms' (hfresh hnodup), hms]
      · rw [settingsOf_cons]
        cases e <;> simp
      · rw [settingsOf_cons, List.append_assoc] at hnodup
        exact (List.perm_append_comm_assoc _ _ _).nodup_iff.mp hnodup

/-- An object is taken for the default with the settings replaced that it gives. -/
theorem readsAs_objectText {given : List Setting} (h : ObjectText c given cs)
    (hnodup : given.Nodup) : ReadsAs cs (Schema.config · = .ok (c.overridden given)) := by
  cases h with
  | empty h =>
      refine (readsAs_emptyObject h).mono ?_
      rintro d rfl
      rw [Schema.config_eq, Decode.record, Decode.members, Setting.firstMissing?_slots,
        Config.overridden_nil]
  | @entries es cs h =>
      refine (readsAs_object (membersReadAs_entriesText h) h.opensValue).mono ?_
      rintro d ⟨ms, hms, rfl⟩
      have hread := hms [] (by rwa [List.append_nil])
      rw [List.append_nil, Config.overridden_reverse] at hread
      exact hread

/-! ## Every selection of settings has a text -/

/-- Every style is spelled by its name. -/
theorem exists_styleText (style : DeclarationStyle) : ∃ text, StyleText style text := by
  have hlower : ∀ entry ∈ Schema.styleSpellings,
      entry.1.toList.map Char.toLower = entry.1.toList := by
    decide +kernel
  have hspelled (name : String) (hname : (name, style) ∈ Schema.styleSpellings) :
      StyleText style name :=
    @StyleText.mk style name name [] name.toList [] hname (hlower _ hname) (fun _ h => nomatch h)
      (fun _ h => nomatch h) (by simp)
  cases style with
  | var => exact ⟨_, hspelled "var" (by decide)⟩
  | explicit => exact ⟨_, hspelled "explicit" (by decide)⟩

/-- Every value of a setting has a spelling. -/
theorem exists_settingText (c : Config) (s : Setting) : ∃ cs, SettingText c s cs := by
  cases s with
  | localVariable => exact ⟨_, .localVariable (stringText_quote _)⟩
  | nullLiteral => exact ⟨_, .nullLiteral (stringText_quote _)⟩
  | declarationStyle =>
      obtain ⟨text, hstyle⟩ := exists_styleText c.declarationStyle
      exact ⟨_, .declarationStyle hstyle (stringText_quote text)⟩
  | fluentMarkers =>
      obtain ⟨cs, h⟩ := Decode.exists_listText (fun s => ⟨_, stringText_quote s⟩) c.fluentMarkers
      exact ⟨cs, .fluentMarkers h⟩
  | synthesizeLombokSetters => exact ⟨_, .synthesizeLombokSetters⟩
  | maxAscentDepth => exact ⟨_, .maxAscentDepth⟩
  | reindent => exact ⟨_, .reindent⟩
  | indentUnit => exact ⟨_, .indentUnit (stringText_quote _)⟩

/-- For any configuration and any selection of its settings, in any order, there is a text. -/
theorem exists_configText (c : Config) (given : List Setting) : ∃ text, ConfigText c given text := by
  have hentries (s : Setting) (given : List Setting) :
      ∃ cs, EntriesText c ((s :: given).map some) cs := by
    induction given generalizing s with
    | nil =>
        obtain ⟨cs, h⟩ := exists_settingText c s
        exact ⟨_, .last (.known (stringText_quote _) h) (.mk isGap_nil isGap_nil)
          (.mk isGap_nil isGap_nil)⟩
    | cons t given ih =>
        obtain ⟨cs, h⟩ := exists_settingText c s
        obtain ⟨more, hmore⟩ := ih t
        exact ⟨_, .more (.known (stringText_quote _) h) (.mk isGap_nil isGap_nil)
          (.mk isGap_nil isGap_nil) hmore⟩
  have hobject : ∃ core, ObjectText c given core := by
    cases given with
    | nil => exact ⟨_, .empty isGap_nil⟩
    | cons s given =>
        obtain ⟨cs, h⟩ := hentries s given
        have hobject := ObjectText.entries h
        rw [settingsOf_map_some] at hobject
        exact ⟨_, hobject⟩
  obtain ⟨core, h⟩ := hobject
  refine ⟨String.ofList core, core, h, ?_⟩
  rw [String.toList_ofList]
  exact Padded.before isGap_nil core

/-! ## The settings that are read -/

/-- **A partial configuration overrides exactly what it mentions.**  For every selection of settings
    of `c`, each of them once and in any order, there is an object that gives them; and every such
    object, in any spelling and among any other keys with any values, is read as the default settings
    with those replaced that are given. -/
theorem config_of_configText (c : Config) {given : List Setting} (hnodup : given.Nodup) :
    (∃ text, ConfigText c given text)
    ∧ ∀ text, ConfigText c given text →
        Decode.text Schema.config text = .ok (c.overridden given) := by
  refine ⟨exists_configText c given, ?_⟩
  rintro text ⟨core, hcore, htext⟩
  obtain ⟨d, hd, hread⟩ :=
    Decode.text_of_readsAs Schema.config (readsAs_objectText hcore hnodup) htext
  rw [hread, hd]

/-- Settings of which two are given. -/
def mixedSettings : Config :=
  { nullLiteral := "0", declarationStyle := .explicit, reindent := false }

/-- A text with two settings behind an unknown key. -/
def mixedText : String :=
  "\x7b\"x\": [1e999,\"\\uD800\"],\"declaration\\u005fstyle\":\" ExPlicit\",\"reindent\":false\x7d\n"

/-- The text is read as the default settings with the style and the indentation changed. -/
theorem config_of_mixedText :
    ConfigText mixedSettings [.declarationStyle, .reindent] mixedText
      ∧ [Setting.declarationStyle, .reindent].Nodup
      ∧ Decode.text Schema.config mixedText
        = .ok { Config.default with declarationStyle := .explicit, reindent := false } := by
  have hnothing : IsGap [] := isGap_nil
  have hblank : IsGap [' '] := by decide
  have hline : IsGap ['\n'] := by decide
  -- the unknown key and its value
  have hdigits : WholeText ['1'] :=
    ⟨⟨by decide, List.all_eq_true.mp rfl⟩, fun _ _ h => nomatch h⟩
  have hlarge : ValueText ['1', 'e', '9', '9', '9'] :=
    .number (.positive hdigits .none
      (.digits (.inl rfl) .none ⟨by decide, List.all_eq_true.mp rfl⟩))
  have hunit : CodeUnit 0xD800 ['D', '8', '0', '0'] :=
    @CodeUnit.mk 'D' '8' '0' '0' 13 8 0 0 (by decide) (by decide) (by decide) (by decide)
  have hhalf : ValueText ['"', '\\', 'u', 'D', '8', '0', '0', '"'] :=
    .string (.mk (.code hunit .nil))
  have hitems := ItemsText.more hlarge (.mk hnothing hnothing)
    (.last hhalf (.mk hnothing hnothing))
  have hother (s : Setting) : s.key ≠ "x" := by
    cases s <;> decide
  have hunknown : EntryText mixedSettings none _ _ :=
    .unknown hother (stringText_of_plain (by decide : IsPlainText ['x'])) (.array hitems)
  -- the style, behind a key with an escape
  have hunderscore : CodeUnit 0x5F ['0', '0', '5', 'f'] :=
    @CodeUnit.mk '0' '0' '5' 'f' 0 0 5 15 (by decide) (by decide) (by decide) (by decide)
  have hdeclaration : IsPlainText ['d', 'e', 'c', 'l', 'a', 'r', 'a', 't', 'i', 'o', 'n'] := by
    decide
  have hkey : StringText "declaration_style" _ :=
    (Inside.plain hdeclaration (.cons (.code hunderscore (by decide) (by decide))
      (.plain (by decide : IsPlainText ['s', 't', 'y', 'l', 'e']) .nil))).stringText
  have hspelled : StringText " ExPlicit" _ := stringText_of_plain
    (by decide : IsPlainText [' ', 'E', 'x', 'P', 'l', 'i', 'c', 'i', 't'])
  have hstyle : StyleText .explicit " ExPlicit" :=
    @StyleText.mk .explicit " ExPlicit" "explicit" [' '] "ExPlicit".toList [] (by decide)
      (by decide +kernel) (List.all_eq_true.mp (by decide)) (fun _ h => nomatch h) (by decide)
  have hexplicit : EntryText mixedSettings (some .declarationStyle) _ _ :=
    .known hkey (.declarationStyle hstyle hspelled)
  have hkey' : StringText "reindent" _ :=
    stringText_of_plain (by decide : IsPlainText ['r', 'e', 'i', 'n', 'd', 'e', 'n', 't'])
  have hreindent : EntryText mixedSettings (some .reindent) _ _ := .known hkey' .reindent
  have hentries := EntriesText.more hunknown (.mk hnothing hnothing) (.mk hblank hnothing)
    (.more hexplicit (.mk hnothing hnothing) (.mk hnothing hnothing)
      (.last hreindent (.mk hnothing hnothing) (.mk hnothing hnothing)))
  have htext : ConfigText mixedSettings [.declarationStyle, .reindent] mixedText :=
    ⟨_, .entries hentries, padded_toList hnothing hline rfl⟩
  have hnodup : [Setting.declarationStyle, .reindent].Nodup := by decide
  exact ⟨htext, hnodup, (config_of_configText mixedSettings hnodup).2 mixedText htext⟩

end BeanMapper
