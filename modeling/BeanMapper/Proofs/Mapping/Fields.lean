import BeanMapper.Mapping.Matching
import Mathlib.Data.List.Forall2

/-! # Fields under their keys — the last field with a key is found

    Fields are entered into a table one after the other, and a later field
    takes the place of an earlier one with the same key.  What is found under
    a key is therefore the last field with it (`find?_fieldTable`), and
    where no two fields share a key the order of the fields does not count
    (`lastWithKey?_perm`). -/

namespace BeanMapper

/-- Of the given fields, `f` is the last whose name in lower case is `key`. -/
structure LastWithKey (fields : List Field) (key : String) (f : Field) : Prop where
  /-- Its own name in lower case is the key. -/
  key_eq : lowered f.name = key
  /-- The fields behind it have other keys. -/
  last : ∃ before after, fields = before ++ f :: after ∧ ∀ g ∈ after, lowered g.name ≠ key

/-- The last of some fields with a key. -/
def lastWithKey? (fields : List Field) (key : String) : Option Field :=
  fields.reverse.find? (key == ·.matchKey)

/-- The search from the end finds the last field with a key. -/
theorem lastWithKey?_eq_some_iff {fields : List Field} {key : String} {f : Field} :
    lastWithKey? fields key = some f ↔ LastWithKey fields key f := by
  rw [lastWithKey?, List.find?_eq_some_iff_append]
  constructor
  · rintro ⟨hkey, after, before, hsplit, hafter⟩
    refine ⟨(beq_iff_eq.mp hkey).symm, before.reverse, after.reverse, ?_, ?_⟩
    · rw [← List.reverse_reverse fields, hsplit, List.reverse_append, List.reverse_cons,
        List.append_assoc, List.singleton_append]
    · intro g hg heq
      have hne := hafter g (List.mem_reverse.mp hg)
      rw [Field.matchKey, heq, beq_self_eq_true] at hne
      exact nomatch hne
  · rintro ⟨hkey, before, after, hsplit, hafter⟩
    refine ⟨beq_iff_eq.mpr hkey.symm, after.reverse, before.reverse, ?_, ?_⟩
    · rw [hsplit, List.reverse_append, List.reverse_cons, List.append_assoc,
        List.singleton_append]
    · intro g hg
      have hne := hafter g (List.mem_reverse.mp hg)
      rw [Field.matchKey, Bool.not_eq_true', beq_eq_false_iff_ne]
      exact hne.symm

/-- The search from the end fails exactly if no field has the key. -/
theorem lastWithKey?_eq_none_iff {fields : List Field} {key : String} :
    lastWithKey? fields key = none ↔ ∀ f ∈ fields, lowered f.name ≠ key := by
  rw [lastWithKey?, List.find?_eq_none]
  constructor
  · intro hall f hf heq
    exact hall f (List.mem_reverse.mpr hf) (beq_iff_eq.mpr heq.symm)
  · intro hall f hf heq
    exact hall f (List.mem_reverse.mp hf) (beq_iff_eq.mp heq).symm

/-- Entering fields into a table puts the last field with a key under it and keeps the rest. -/
theorem find?_foldl_insert (fields : List Field) (table : KeyTable Field) (key : String) :
    (fields.foldl (fun t f => t.insert f.matchKey f) table).find? key
      = (lastWithKey? fields key).or (table.find? key) := by
  induction fields generalizing table with
  | nil => rfl
  | cons f fields ih =>
      rw [List.foldl_cons, ih, KeyTable.find?_insert, lastWithKey?, lastWithKey?,
        List.reverse_cons, List.find?_append, Option.or_assoc, List.find?_singleton]
      by_cases hkey : (key == f.matchKey) = true
      · rw [if_pos hkey, if_pos hkey, Option.some_or]
      · rw [if_neg hkey, if_neg hkey, Option.none_or]

/-- What stands under a key is the last field with it. -/
theorem find?_fieldTable (source : Declaration) (key : String) :
    (fieldTable source).find? key = lastWithKey? source.fields key := by
  rw [fieldTable, find?_foldl_insert]
  exact Option.or_none

theorem LastWithKey.mem {fields : List Field} {key : String} {f : Field}
    (h : LastWithKey fields key f) : f ∈ fields := by
  obtain ⟨before, after, rfl, -⟩ := h.last
  exact List.mem_append_right _ List.mem_cons_self

/-- Where no two fields share a key, a field is the last with its key. -/
theorem lastWithKey_iff_mem {fields : List Field}
    (hdistinct : (fields.map fun f => lowered f.name).Nodup) {key : String} {f : Field} :
    LastWithKey fields key f ↔ f ∈ fields ∧ lowered f.name = key := by
  constructor
  · intro h
    exact ⟨h.mem, h.key_eq⟩
  · rintro ⟨hmem, hkey⟩
    obtain ⟨before, after, rfl⟩ := List.append_of_mem hmem
    refine ⟨hkey, before, after, rfl, ?_⟩
    intro g hg heq
    rw [List.map_append, List.map_cons] at hdistinct
    have htail := (List.nodup_append.mp hdistinct).2.1
    refine (List.nodup_cons.mp htail).1 ?_
    rw [hkey, ← heq]
    exact List.mem_map_of_mem hg

/-- Where no two fields share a key, the order of the fields does not count. -/
theorem lastWithKey?_perm {fields others : List Field} (hperm : fields.Perm others)
    (hdistinct : (fields.map fun f => lowered f.name).Nodup) (key : String) :
    lastWithKey? others key = lastWithKey? fields key := by
  have hdistinct' : (others.map fun f => lowered f.name).Nodup :=
    (hperm.map _).nodup_iff.mp hdistinct
  apply Option.ext
  intro f
  rw [lastWithKey?_eq_some_iff, lastWithKey?_eq_some_iff, lastWithKey_iff_mem hdistinct,
    lastWithKey_iff_mem hdistinct', hperm.mem_iff]

end BeanMapper
