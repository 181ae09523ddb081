import BeanMapper.Proofs.Json.Records

/-!
# Codecs — a way to write values and the way to read them back

    What a value is written as and how it is taken out again belong together:
    `ReadsBack` says of such a pair that every value is read back from what is
    written for it, and that what is written holds no number of more than 64
    bits, so that its text is read back as well (`ReadsBack.text`).  Scalars
    have the property; arrays, pairs, values that may be null, alternatives and
    records have it if their parts do. -/

namespace BeanMapper.Json

variable {α β : Type}

/-- Every value is read back from what is written for it. -/
structure ReadsBack (decode : Decoder α) (encode : α → Value) : Prop where
  /-- What is written holds no number of more than 64 bits. -/
  fits : ∀ a, (encode a).Fits
  /-- What is read is what was written. -/
  read : ∀ a, decode (encode a).draft = .ok a

/-- A value of one of several alternatives is written under its name: the name alone, or an object
    with the name as its only key. -/
inductive Tagged (table : List (String × Decode.Variant α)) (a : α) : Value → Prop where
  /-- The name stands for the value. -/
  | plain {name : String} (h : table.lookup name = some (.plain a)) : Tagged table a (.string name)
  /-- The value is read back from what is written with the name. -/
  | wrapped {name : String} {inner : Decoder α} {v : Value}
      (h : table.lookup name = some (.wrap inner)) (hfits : v.Fits)
      (hread : inner v.draft = .ok a) : Tagged table a (.object [(name, v)])

namespace Tagged

variable {table : List (String × Decode.Variant α)} {a : α} {v : Value}

/-- What is tagged fits its form. -/
theorem fits (h : Tagged table a v) : v.Fits := by
  cases h with
  | plain h => trivial
  | wrapped h hfits hread => exact ⟨hfits, trivial⟩

/-- What is tagged is read back through the table. -/
theorem read (h : Tagged table a v) : Decode.variant table v.draft = .ok a := by
  cases h with
  | plain h =>
      rw [Value.draft, Decode.variant, Decode.variantNamed, h]
      rfl
  | wrapped h hfits hread =>
      simp only [Value.draft, draftMembers, Decode.variant, Decode.variantKey,
        Decode.variantNamed, h, hread, bind, Except.bind]
      rfl

end Tagged

/-- A look-up under a name does not depend on what stands under the names. -/
theorem lookup_map_snd (f : α → β) (table : List (String × α)) (name : String) :
    (table.map fun entry => (entry.1, f entry.2)).lookup name = (table.lookup name).map f := by
  induction table with
  | nil => rfl
  | cons entry table ih =>
      obtain ⟨key, a⟩ := entry
      rw [List.map_cons, List.lookup_cons, List.lookup_cons, ih]
      cases name == key <;> rfl

namespace ReadsBack

variable {decode : Decoder α} {encode : α → Value} {decode' : Decoder β} {encode' : β → Value}

/-- **The text of a value is read back.** -/
theorem text (h : ReadsBack decode encode) (a : α) :
    Decode.text decode (encode a).text = .ok a := by
  rw [Decode.text_of_written decode (encode a) (h.fits a), h.read]

theorem string : ReadsBack Decode.string Value.string where
  fits _ := trivial
  read _ := rfl

theorem bool : ReadsBack Decode.bool Value.bool where
  fits _ := trivial
  read _ := rfl

theorem word64 : ReadsBack Decode.word64 fun n => .number n.toNat where
  fits n := n.toNat_lt
  read := Decode.word64_number

theorem word32 : ReadsBack Decode.word32 fun n => .number n.toNat where
  fits n := Nat.lt_trans n.toNat_lt (by decide)
  read n := by
    have hlt : n.toNat < Nat.pow 2 32 := n.toNat_lt
    simp [Value.draft, Decode.word32, Decode.word, hlt, Except.map]

/-- A list is read back if its items are. -/
theorem list (h : ReadsBack decode encode) :
    ReadsBack (Decode.list decode) fun as => .array (as.map encode) where
  fits _ := fitItems_map fun a _ => h.fits a
  read _ := Decode.list_array fun a _ => h.read a

/-- A pair is read back if its parts are. -/
theorem pair (h : ReadsBack decode encode) (h' : ReadsBack decode' encode') :
    ReadsBack (Decode.pair decode decode') fun p => .array [encode p.1, encode' p.2] where
  fits p := ⟨h.fits p.1, h'.fits p.2, trivial⟩
  read p := by
    simp only [Value.draft, draftItems, Decode.pair, Decode.nextItem, h.read, h'.read, Except.map,
      bind, Except.bind]
    rfl

/-- A value that may be null is read back if it is not written as null when it is there. -/
theorem optional (h : ReadsBack decode encode) (hnull : ∀ a, (encode a).draft ≠ .null) :
    ReadsBack (Decode.optional decode) fun o => o.elim .null encode where
  fits o := by
    cases o with
    | none => trivial
    | some a => exact h.fits a
  read o := by
    cases o with
    | none => rfl
    | some a =>
        rw [Option.elim_some, Decode.optional.eq_2 _ _ (hnull a), h.read]
        rfl

/-- Alternatives are read back if each is written under its name in the table. -/
theorem variant {table : List (String × Decode.Variant α)}
    (h : ∀ a, Tagged table a (encode a)) : ReadsBack (Decode.variant table) encode where
  fits a := (h a).fits
  read a := (h a).read

/-- Values are read back by their names if the table leads from each name to its value. -/
theorem named {table : List (String × α)} {name : α → String}
    (h : ∀ a, table.lookup (name a) = some a) :
    ReadsBack (Decode.named table) fun a => .string (name a) :=
  variant fun a => .plain (by rw [lookup_map_snd, h, Option.map_some])

/-- A record is read back if what is written for it gives it its fields in their order. -/
theorem record {name : String} {slots : List (Decode.Slot α)} {start : α}
    {members : α → List (String × Value)} (hkeys : (slots.map (·.key)).Nodup)
    (hfits : ∀ a, FitMembers (members a)) (hfills : ∀ a, Decode.Fills slots start (members a) a) :
    ReadsBack (Decode.record name slots start) fun a => .object (members a) where
  fits := hfits
  read a := Decode.record_of_fills hkeys (hfills a)

end ReadsBack

end BeanMapper.Json
