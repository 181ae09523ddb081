import BeanMapper.Proofs.Json.Values

/-!
# Records — reading back objects, lists and words

    A record is written as an object with its fields in their order, where a
    field that need not be given may be missing (`Fills`).  Such an object is
    read back field by field: no key is given twice, each one is found among
    the fields, and none that must be given is missing (`record_of_fills`). -/

namespace BeanMapper.Json

variable {σ α : Type}

/-! ## Numbers and lists -/

theorem fitItems_map {f : α → Value} {xs : List α} (h : ∀ x ∈ xs, (f x).Fits) :
    FitItems (xs.map f) := by
  induction xs with
  | nil => exact trivial
  | cons x xs ih =>
      exact ⟨h x List.mem_cons_self, ih fun y hy => h y (List.mem_cons_of_mem _ hy)⟩

namespace Decode

theorem word64_number (n : UInt64) : word64 (Value.number n.toNat).draft = .ok n := by
  have hlt : n.toNat < Nat.pow 2 64 := n.toNat_lt
  simp [Value.draft, word64, word, hlt, Except.map]

/-- **A list is read back** if each of its items is. -/
theorem list_array {inner : Decoder α} {f : α → Value} {xs : List α}
    (h : ∀ x ∈ xs, inner (f x).draft = .ok x) :
    list inner (Value.array (xs.map f)).draft = .ok xs := by
  rw [Value.draft, list]
  induction xs with
  | nil => rfl
  | cons x xs ih =>
      rw [List.map_cons, draftItems, items, h x List.mem_cons_self]
      dsimp only
      rw [ih fun y hy => h y (List.mem_cons_of_mem _ hy)]
      rfl

/-! ## Spelled values -/

section Spelled

open Draft

variable {One : α → List Char → Prop} {inner : Decoder α} {as : List α} {cs : List Char}

/-- A string is decoded from any text that spells it. -/
theorem readsAs_string {s : String} (h : StringText s cs) : ReadsAs cs (string · = .ok s) := by
  refine (readsAs_stringText h).mono ?_
  rintro d rfl
  rfl

/-- A truth value is decoded from its word. -/
theorem readsAs_bool (b : Bool) : ReadsAs (boolText b) (bool · = .ok b) := by
  refine (readsAs_boolText b).mono ?_
  rintro d rfl
  rfl

/-- A number of 64 bits is decoded from its digits. -/
theorem readsAs_word64 (n : UInt64) : ReadsAs (toString n.toNat).toList (word64 · = .ok n) := by
  refine (readsAs_natural n.toNat_lt).mono ?_
  rintro d rfl
  exact word64_number n

/-- Items that may each be spelled in some ways, with commas between them. -/
inductive ItemsSpelled (One : α → List Char → Prop) : List α → List Char → Prop where
  | last {a : α} {core cs : List Char} (h : One a core) (hcs : Padded core cs) :
      ItemsSpelled One [a] cs
  | more {a : α} {as : List α} {core cs more : List Char} (h : One a core) (hcs : Padded core cs)
      (hmore : ItemsSpelled One as more) : ItemsSpelled One (a :: as) (cs ++ ',' :: more)

/-- A list of items that may each be spelled in some ways. -/
inductive ListText (One : α → List Char → Prop) : List α → List Char → Prop where
  | empty {gap : List Char} (h : IsGap gap) : ListText One [] ('[' :: (gap ++ [']']))
  | items {as : List α} {cs : List Char} (h : ItemsSpelled One as cs) :
      ListText One as ('[' :: (cs ++ [']']))

/-- Items open as the first of them does. -/
theorem ItemsSpelled.opensValue (h : ItemsSpelled One as cs)
    (hopens : ∀ a cs, One a cs → OpensValue cs) : OpensValue cs := by
  cases h with
  | last h hcs => exact (hopens _ _ h).padded hcs
  | more h hcs _ => exact ((hopens _ _ h).padded hcs).append _

/-- The items are taken one by one; by induction on them. -/
theorem ItemsSpelled.readsAs (h : ItemsSpelled One as cs)
    (hone : ∀ a cs, One a cs → ReadsAs cs (inner · = .ok a)) :
    ItemsReadAs cs (Decode.items inner · = .ok as) := by
  induction h with
  | last h hcs =>
      refine (itemsReadAs_last (hone _ _ h) hcs).mono ?_
      rintro is ⟨d, hd, rfl⟩
      rw [Decode.items, hd]
      rfl
  | more h hcs _ ih =>
      refine (itemsReadAs_more (hone _ _ h) hcs ih).mono ?_
      rintro is ⟨d, is', hd, his, rfl⟩
      rw [Decode.items, hd]
      dsimp only
      rw [his]
      rfl

/-- **A list is taken** if each of its items is, however they are spelled. -/
theorem ListText.readsAs (h : ListText One as cs)
    (hone : ∀ a cs, One a cs → ReadsAs cs (inner · = .ok a))
    (hopens : ∀ a cs, One a cs → OpensValue cs) : ReadsAs cs (list inner · = .ok as) := by
  cases h with
  | empty h =>
      refine (readsAs_emptyArray h).mono ?_
      rintro d rfl
      rfl
  | items h =>
      refine (readsAs_array (h.readsAs hone) (h.opensValue hopens)).mono ?_
      rintro d ⟨is, his, rfl⟩
      exact his

/-- Where every item has a spelling, every list has one. -/
theorem exists_listText (hone : ∀ a, ∃ cs, One a cs) (as : List α) : ∃ cs, ListText One as cs := by
  have hitems (a : α) (as : List α) : ∃ cs, ItemsSpelled One (a :: as) cs := by
    induction as generalizing a with
    | nil =>
        obtain ⟨core, h⟩ := hone a
        exact ⟨_, .last h (.mk isGap_nil isGap_nil)⟩
    | cons b as ih =>
        obtain ⟨core, h⟩ := hone a
        obtain ⟨more, hmore⟩ := ih b
        exact ⟨_, .more h (.mk isGap_nil isGap_nil) hmore⟩
  cases as with
  | nil => exact ⟨_, .empty isGap_nil⟩
  | cons a as =>
      obtain ⟨cs, h⟩ := hitems a as
      exact ⟨_, .items h⟩

end Spelled

/-! ## Objects -/

theorem put_slot {inner : Decoder α} {d : Draft} {a : α} (h : inner d = .ok a) (key : String)
    (presence : Presence) (set : α → σ → σ) (r : σ) :
    (slot key presence inner set).put d r = .ok (set a r) := by
  simp only [slot, h]
  rfl

/-- The members of an object give a record its fields in their order; only fields that need not be
    given are left out. -/
inductive Fills : List (Slot σ) → σ → List (String × Value) → σ → Prop where
  /-- All fields have been dealt with. -/
  | done (s : σ) : Fills [] s [] s
  /-- A field is given. -/
  | given {key : String} {presence : Presence} {β : Type} {inner : Decoder β} {set : β → σ → σ}
      {slots : List (Slot σ)} {s r : σ} {v : Value} {b : β} {members : List (String × Value)}
      (hread : inner v.draft = .ok b) (hrest : Fills slots (set b s) members r) :
      Fills (slot key presence inner set :: slots) s ((key, v) :: members) r
  /-- A field is left out. -/
  | omitted {field : Slot σ} {slots : List (Slot σ)} {s r : σ} {members : List (String × Value)}
      (hpresence : field.presence ≠ .required) (hrest : Fills slots s members r) :
      Fills (field :: slots) s members r

/-- The fields that have been dealt with, and the keys that were seen for them. -/
structure Dealt (before : List (Slot σ)) (seen : List String) : Prop where
  /-- Every key that was seen is the key of one of the fields. -/
  key_mem : ∀ key ∈ seen, key ∈ before.map (·.key)
  /-- The keys of the fields that must be given were seen. -/
  required : ∀ f ∈ before, f.presence = .required → f.key ∈ seen

namespace Dealt

variable {before : List (Slot σ)} {seen : List String} {field : Slot σ}

/-- A field that is given joins those that were dealt with and seen. -/
theorem given (h : Dealt before seen) (field : Slot σ) :
    Dealt (before ++ [field]) (field.key :: seen) where
  key_mem := by
    intro key hkey
    rw [List.map_append]
    rcases List.mem_cons.mp hkey with rfl | hkey
    · exact List.mem_append_right _ List.mem_cons_self
    · exact List.mem_append_left _ (h.key_mem key hkey)
  required := by
    intro f hf hpresence
    rcases List.mem_append.mp hf with hf | hf
    · exact List.mem_cons_of_mem _ (h.required f hf hpresence)
    · rw [List.mem_singleton.mp hf]
      exact List.mem_cons_self

/-- A field that may be missing is dealt with though it was not seen. -/
theorem omitted (h : Dealt before seen) (hpresence : field.presence ≠ .required) :
    Dealt (before ++ [field]) seen where
  key_mem := by
    intro key hkey
    rw [List.map_append]
    exact List.mem_append_left _ (h.key_mem key hkey)
  required := by
    intro f hf hrequired
    rcases List.mem_append.mp hf with hf | hf
    · exact h.required f hf hrequired
    · exact absurd (List.mem_singleton.mp hf ▸ hrequired) hpresence

/-- Once all fields have been dealt with, none is missing. -/
theorem firstMissing? (h : Dealt before seen) : Decode.firstMissing? before seen = none := by
  rw [Decode.firstMissing?, Option.map_eq_none_iff, List.find?_eq_none]
  intro f hf
  simpa using h.required f hf

end Dealt

/-- Where keys differ, a field is found by its key. -/
theorem find?_key {before slots : List (Slot σ)} {field : Slot σ}
    (hkeys : ((before ++ field :: slots).map (·.key)).Nodup) :
    field.key ∉ before.map (·.key)
      ∧ (before ++ field :: slots).find? (·.key == field.key) = some field := by
  rw [List.map_append, List.nodup_append] at hkeys
  have hnot : field.key ∉ before.map (·.key) := fun hmem =>
    hkeys.2.2 _ hmem _ List.mem_cons_self rfl
  refine ⟨hnot, ?_⟩
  rw [List.find?_append, List.find?_eq_none.mpr, Option.none_or,
    List.find?_cons_of_pos (by simp)]
  intro f hf heq
  exact hnot (List.mem_map.mpr ⟨f, hf, beq_iff_eq.mp heq⟩)

/-- The fields that are still to come are read behind those that have been dealt with. -/
theorem members_of_fills (before : List (Slot σ)) {slots : List (Slot σ)} {seen : List String}
    {s r : σ} {ms : List (String × Value)} (hkeys : ((before ++ slots).map (·.key)).Nodup)
    (hdealt : Dealt before seen) (h : Fills slots s ms r) :
    members (before ++ slots) seen s (draftMembers ms) = .ok r := by
  -- each case moves one field to those that have been dealt with
  have hmove (before slots : List (Slot σ)) (field : Slot σ) :
      before ++ field :: slots = (before ++ [field]) ++ slots := by simp
  induction h generalizing before seen with
  | done s =>
      rw [List.append_nil, draftMembers, members, hdealt.firstMissing?]
  | @given key presence β inner set slots s r v b ms hread hrest ih =>
      obtain ⟨hnot, hfind⟩ := find?_key hkeys
      have hfresh : seen.contains key = false := by
        simpa using fun hmem => hnot (hdealt.key_mem key hmem)
      have hput := put_slot hread key presence set s
      have hkey : (slot key presence inner set).key = key := rfl
      rw [hkey] at hfind
      simp only [draftMembers, members, Decode.key, hfind, hfresh, hput, Bool.false_eq_true, if_false]
      rw [hmove] at hkeys ⊢
      exact ih _ hkeys (hdealt.given _)
  | omitted hpresence hrest ih =>
      rw [hmove] at hkeys ⊢
      exact ih _ hkeys (hdealt.omitted hpresence)

/-- **A record is read back** from an object that gives it its fields in their order. -/
theorem record_of_fills {name : String} {slots : List (Slot σ)} {start r : σ}
    {ms : List (String × Value)} (hkeys : (slots.map (·.key)).Nodup) (h : Fills slots start ms r) :
    record name slots start (Value.object ms).draft = .ok r := by
  rw [Value.draft, record]
  exact members_of_fills [] hkeys ⟨(fun _ h => nomatch h), (fun _ h => nomatch h)⟩ h

end Decode

end BeanMapper.Json
