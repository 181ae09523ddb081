import BeanMapper.Declaration

/-!
# Matching — which field each setter takes

    The fields of the source are entered into a table under their keys, so of
    two fields with one key the later one stays.  Each setter of the target
    takes the field under its own key, if there is one; setters keep their
    order and none is left out.
-/

namespace BeanMapper

/-- A table of values under keys; no key occurs twice. -/
abbrev KeyTable (α : Type) : Type := List (String × α)

namespace KeyTable

variable {α : Type}

/-- The table with a value under a key, in place of what stood there. -/
def insert (table : KeyTable α) (key : String) (value : α) : KeyTable α :=
  match table with
  | [] => [(key, value)]
  | (k, v) :: rest =>
      if key == k then (key, value) :: rest else (k, v) :: insert rest key value

/-- The value under a key. -/
def find? (table : KeyTable α) (key : String) : Option α := List.lookup key table

theorem find?_insert (table : KeyTable α) (key other : String) (value : α) :
    find? (insert table key value) other
      = if other == key then some value else find? table other := by
  induction table with
  | nil => cases h : other == key <;> simp [insert, find?, List.lookup_cons, h]
  | cons entry rest ih =>
      obtain ⟨k, v⟩ := entry
      simp only [find?, insert] at ih ⊢
      cases hk : key == k with
      | true =>
          obtain rfl : key = k := by simpa using hk
          cases h : other == key <;> simp [List.lookup_cons, h]
      | false =>
          cases h : other == k with
          | true =>
              obtain rfl : other = k := by simpa using h
              have hne : (other == key) = false := by rw [BEq.comm]; exact hk
              simp [hne]
          | false => simpa [List.lookup_cons, h] using ih

end KeyTable

/-- One setter of the target with the field that it takes, if there is one. -/
structure SetterMatch where
  /-- The name of the setter. -/
  setter : String
  /-- The name of the field as it is spelled. -/
  field : Option String
deriving DecidableEq

/-- Whether the setter takes a field. -/
def SetterMatch.isMatched (m : SetterMatch) : Bool := m.field.isSome

/-- The fields of a source under their keys. -/
def fieldTable (source : Declaration) : KeyTable Field :=
  source.fields.foldl (fun table field => table.insert field.matchKey field) []

/-- The setters of the target in their order, each with the field of the source under its key. -/
def matchSetters (target source : Declaration) : List SetterMatch :=
  let table := fieldTable source
  target.methods.filterMap fun method =>
    method.setterKey?.map fun key => ⟨method.name, (table.find? key).map (·.name)⟩

end BeanMapper
