import BeanMapper.Proofs.Json.Nesting

/-!
# Values — reading back what is written

    A value whose numbers fit 64 bits is written so that it is read back, over
    several lines and at any depth: blanks are all that the lines add to its
    parts (`readsAs_pretty`).  The induction is on the value together with the
    items or members that are still to come.  What a decoder takes out of the
    written text is then what it takes out of the value's draft
    (`text_of_written`). -/

namespace BeanMapper.Json

/-! ## Values as drafts -/

mutual

/-- What a value is read as. -/
def Value.draft : Value → Draft
  | .null => .null
  | .bool b => .bool b
  | .number n => .number (.natural n)
  | .string s => .string s
  | .array items => .array (draftItems items)
  | .object members => .object (draftMembers members)

/-- What the items of an array are read as. -/
def draftItems : List Value → Items
  | [] => .closed
  | item :: items => .item item.draft (draftItems items)

/-- What the members of an object are read as. -/
def draftMembers : List (String × Value) → Members
  | [] => .closed
  | (key, value) :: members => .member (.string key) value.draft (draftMembers members)

end

mutual

/-- Every number in a value fits 64 bits. -/
def Value.Fits : Value → Prop
  | .null => True
  | .bool _ => True
  | .number n => n < 2 ^ 64
  | .string _ => True
  | .array items => FitItems items
  | .object members => FitMembers members

/-- Every number in the items of an array fits 64 bits. -/
def FitItems : List Value → Prop
  | [] => True
  | item :: items => item.Fits ∧ FitItems items

/-- Every number in the members of an object fits 64 bits. -/
def FitMembers : List (String × Value) → Prop
  | [] => True
  | (_, value) :: members => value.Fits ∧ FitMembers members

end

namespace Draft

theorem isGap_newLine (depth : Nat) : IsGap (newLine depth) := by
  intro c hc
  rcases List.mem_cons.mp hc with rfl | hmem
  · decide
  · rw [List.eq_of_mem_replicate hmem]
    decide

/-- A written value starts with no blank, and not as an array or an object ends. -/
theorem opensValue_pretty (v : Value) (depth : Nat) : OpensValue (v.pretty depth) := by
  rcases v with - | (b | b) | n | s | (- | ⟨item, items⟩) | (- | ⟨⟨key, value⟩, members⟩)
  case number =>
    rw [Value.pretty]
    exact (numberText_toString n).opensValue
  all_goals
    rw [Value.pretty]
    exact opensValue_cons (by decide) (by decide) (by decide) _

theorem opensValue_quote (s : String) : OpensValue (quote s.toList) :=
  opensValue_cons (by decide) (by decide) (by decide) _

mutual

/-- **A written value is read back.** -/
theorem readsAs_pretty (v : Value) (depth : Nat) (hfits : v.Fits) :
    ReadsAs (v.pretty depth) (· = v.draft) := by
  match v, hfits with
  | .null, _ => exact readsAs_null
  | .bool true, _ => exact readsAs_boolText true
  | .bool false, _ => exact readsAs_boolText false
  | .number n, hfits => exact readsAs_natural hfits
  | .string s, _ => exact readsAs_stringText (stringText_quote s)
  | .array [], _ => exact readsAs_emptyArray isGap_nil
  | .array (item :: items), hfits =>
      obtain ⟨cs, hcs, hread, hopens⟩ := itemsReadAs_pretty item items depth hfits
      rw [Value.pretty, hcs]
      refine (readsAs_array hread hopens).mono ?_
      rintro d ⟨is, rfl, rfl⟩
      rfl
  | .object [], _ => exact readsAs_emptyObject isGap_nil
  | .object ((key, value) :: members), hfits =>
      obtain ⟨cs, hcs, hread, hopens⟩ := membersReadAs_pretty key value members depth hfits
      rw [Value.pretty, hcs]
      refine (readsAs_object hread hopens).mono ?_
      rintro d ⟨ms, rfl, rfl⟩
      rfl
termination_by sizeOf v

/-- Written items are read back with the line of the first one. -/
theorem itemsReadAs_pretty (item : Value) (items : List Value) (depth : Nat)
    (hfits : FitItems (item :: items)) :
    ∃ cs, newLine (depth + 1) ++ item.pretty (depth + 1) ++ prettyItems depth items = cs ++ [']']
      ∧ ItemsReadAs cs (· = draftItems (item :: items)) ∧ OpensValue cs := by
  have hitem := readsAs_pretty item (depth + 1) hfits.1
  match items, hfits with
  | [], _ =>
      have hpadded : Padded (item.pretty (depth + 1)) _ :=
        .mk (isGap_newLine (depth + 1)) (isGap_newLine depth)
      refine ⟨_, ?_, (itemsReadAs_last hitem hpadded).mono ?_, (opensValue_pretty _ _).padded hpadded⟩
      · rw [prettyItems, ← List.append_assoc]
      · rintro is ⟨d, rfl, rfl⟩
        rfl
  | next :: items, hfits =>
      obtain ⟨cs, hcs, hread, -⟩ := itemsReadAs_pretty next items depth hfits.2
      have hpadded := Padded.before (isGap_newLine (depth + 1)) (item.pretty (depth + 1))
      refine ⟨_, ?_, (itemsReadAs_more hitem hpadded hread).mono ?_,
        ((opensValue_pretty _ _).padded hpadded).append _⟩
      · rw [prettyItems, hcs]
        simp only [List.append_assoc, List.cons_append]
      · rintro is ⟨d, is', rfl, rfl, rfl⟩
        rfl
-- the first item is no part of the items behind it, so both are counted
termination_by sizeOf item + sizeOf items + 1

/-- Written members are read back with the line of the first one. -/
theorem membersReadAs_pretty (key : String) (value : Value) (members : List (String × Value))
    (depth : Nat) (hfits : FitMembers ((key, value) :: members)) :
    ∃ cs, newLine (depth + 1) ++ quote key.toList ++ ':' :: ' ' ::
          (value.pretty (depth + 1) ++ prettyMembers depth members) = cs ++ ['\x7d']
      ∧ MembersReadAs cs (· = draftMembers ((key, value) :: members)) ∧ OpensValue cs := by
  have hkey := readsAs_stringText (stringText_quote key)
  have hvalue := readsAs_pretty value (depth + 1) hfits.1
  have hk := Padded.before (isGap_newLine (depth + 1)) (quote key.toList)
  have hopens := (opensValue_quote key).padded hk
  have hblank : IsGap [' '] := by decide
  match members, hfits with
  | [], _ =>
      have hv : Padded (value.pretty (depth + 1)) _ := .mk hblank (isGap_newLine depth)
      refine ⟨_, ?_, (membersReadAs_last hkey hk hvalue hv).mono ?_, hopens.append _⟩
      · rw [prettyMembers]
        simp only [List.append_assoc, List.cons_append, List.nil_append]
      · rintro ms ⟨n, d, rfl, rfl, rfl⟩
        rfl
  | (next, nextValue) :: members, hfits =>
      obtain ⟨cs, hcs, hread, -⟩ := membersReadAs_pretty next nextValue members depth hfits.2
      have hv := Padded.before hblank (value.pretty (depth + 1))
      refine ⟨_, ?_, (membersReadAs_more hkey hk hvalue hv hread).mono ?_, hopens.append _⟩
      · rw [prettyMembers, hcs]
        simp only [List.append_assoc, List.cons_append, List.nil_append]
      · rintro ms ⟨n, d, ms', rfl, rfl, rfl, rfl⟩
        rfl
termination_by sizeOf value + sizeOf members + 1

end

end Draft

/-- **What is taken out of a written text** is what is taken out of the draft of its value. -/
theorem Decode.text_of_written {α : Type} (inner : Decoder α) (v : Value) (h : v.Fits) :
    Decode.text inner v.text = inner v.draft := by
  have hsource : Draft.Padded (v.pretty 0) v.text.toList := by
    rw [Value.text, String.toList_ofList]
    exact Draft.Padded.before Draft.isGap_nil (v.pretty 0)
  obtain ⟨d, rfl, hd⟩ := text_of_readsAs inner (Draft.readsAs_pretty v 0 h) hsource
  exact hd

end BeanMapper.Json
