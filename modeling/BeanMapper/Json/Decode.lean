import BeanMapper.Decimal.Shortest
import BeanMapper.Json.Draft
import BeanMapper.Text.Quoted

/-!
# Decoding — taking a value out of a JSON draft

    A decoder walks a draft in the order of the text and reports the first
    problem.  A record is read from an object, whose members may stand in any
    order and among unknown ones, or from an array of its fields in order.
    One of several alternatives is read from its name alone, or from an object
    with its name as the only key.
-/

namespace BeanMapper.Json

/-- What stands at a place where something else is expected. -/
inductive Found where
  | null
  | bool (b : Bool)
  | number (n : Numeral)
  | string (s : String)
  | sequence
  | map
  /-- The name of an alternative that stands alone. -/
  | unitVariant

/-- The words for a whole number. -/
def Numeral.words : Numeral → String
  | .natural n => "integer `" ++ toString n ++ "`"
  | .negative n => "integer `-" ++ toString n ++ "`"
  | .floating x => "floating point `" ++ Decimal.floatText x ++ "`"

/-- The words for what stands at a place. -/
def Found.words : Found → String
  | .null => "null"
  | .bool b => "boolean `" ++ (if b then "true" else "false") ++ "`"
  | .number n => n.words
  | .string s => "string " ++ Text.quoted s
  | .sequence => "sequence"
  | .map => "map"
  | .unitVariant => "unit variant"

/-- A problem with the content of a well-formed text. -/
inductive Mismatch where
  /-- Something else is expected at this place. -/
  | invalidType (found : Found) (expected : String)
  /-- A number is out of the range that is expected. -/
  | invalidValue (found : Found) (expected : String)
  /-- An array has fewer items than the record has fields. -/
  | invalidLength (length : Nat) (expected : String)
  /-- A field is given twice. -/
  | duplicateField (key : String)
  /-- A field is not given. -/
  | missingField (key : String)
  /-- No alternative has this name. -/
  | unknownVariant (name : String) (expected : List String)
  /-- A text that is read without regard to case is none of the spellings. -/
  | unknownSpelling (text : String) (expected : List String)

/-- The words for a problem with the content of a text. -/
def Mismatch.message : Mismatch → String
  | .invalidType found expected => "invalid type: " ++ found.words ++ ", expected " ++ expected
  | .invalidValue found expected => "invalid value: " ++ found.words ++ ", expected " ++ expected
  | .invalidLength length expected =>
      "invalid length " ++ toString length ++ ", expected " ++ expected
  | .duplicateField key => "duplicate field `" ++ key ++ "`"
  | .missingField key => "missing field `" ++ key ++ "`"
  | .unknownVariant name expected =>
      "unknown variant `" ++ name ++ "`, expected one of "
        ++ ", ".intercalate (expected.map fun e => "`" ++ e ++ "`")
  | .unknownSpelling text expected =>
      "unknown variant '" ++ text ++ "', expected one of: " ++ ", ".intercalate expected

/-- Why no value can be taken out of a text. -/
inductive Problem where
  /-- The text is not JSON. -/
  | text (fault : Fault)
  /-- The text does not hold what is expected. -/
  | content (mismatch : Mismatch)

/-- The words for why no value can be taken out of a text. -/
def Problem.message : Problem → String
  | .text .ended => "the text ends too early"
  | .text .malformed => "the text is not well formed"
  | .content mismatch => mismatch.message

/-- A decoder takes a value out of a draft. -/
abbrev Decoder (α : Type) : Type := Draft → Except Problem α

namespace Decode

/-- The error of a text that is not JSON. -/
def broken {α : Type} (fault : Fault) : Except Problem α := .error (.text fault)

/-- The error of a text with the wrong content. -/
def wrong {α : Type} (mismatch : Mismatch) : Except Problem α := .error (.content mismatch)

/-- Where something else is expected, the error of what stands there. -/
def unexpected {α : Type} (expected : String) : Draft → Except Problem α
  | .null => wrong (.invalidType .null expected)
  | .bool b => wrong (.invalidType (.bool b) expected)
  | .number n => wrong (.invalidType (.number n) expected)
  | .string s => wrong (.invalidType (.string s) expected)
  | .brokenText read _ => broken read
  | .brokenScalar read _ => broken read
  | .missing fault => broken fault
  | .array _ => wrong (.invalidType .sequence expected)
  | .object _ => wrong (.invalidType .map expected)

/-- Passes over a value. -/
def skip (d : Draft) : Except Problem Unit :=
  match d.skipFault? with
  | some fault => broken fault
  | none => .ok ()

/-- Takes a text. -/
def string : Decoder String
  | .string s => .ok s
  | d => unexpected "a string" d

/-- Takes a truth value. -/
def bool : Decoder Bool
  | .bool b => .ok b
  | d => unexpected "a boolean" d

/-- Takes a natural number below `2^bits`. -/
def word (bits : Nat) (expected : String) : Decoder Nat
  | .number (.natural n) =>
      if n < Nat.pow 2 bits then .ok n
      else wrong (.invalidValue (.number (.natural n)) expected)
  | .number (.negative n) => wrong (.invalidValue (.number (.negative n)) expected)
  | d => unexpected expected d

/-- Takes a number of 64 bits. -/
def word64 : Decoder UInt64 := fun d => (word 64 "usize" d).map UInt64.ofNat

/-- Takes a number of 32 bits. -/
def word32 : Decoder UInt32 := fun d => (word 32 "u32" d).map UInt32.ofNat

/-- Takes nothing. -/
def unit : Decoder Unit
  | .null => .ok ()
  | d => unexpected "unit" d

/-- Takes a value that may be given as null. -/
def optional {α : Type} (inner : Decoder α) : Decoder (Option α)
  | .null => .ok none
  | d => (inner d).map some

/-- Takes the items of an array. -/
def items {α : Type} (inner : Decoder α) : Items → Except Problem (List α)
  | .closed => .ok []
  | .broken fault => broken fault
  | .item first rest =>
      match inner first with
      | .error p => .error p
      | .ok a => (items inner rest).map (a :: ·)

/-- Takes an array. -/
def list {α : Type} (inner : Decoder α) : Decoder (List α)
  | .array is => items inner is
  | d => unexpected "a sequence" d

/-- The end of an array of which all items are taken. -/
def endOfItems : Items → Except Problem Unit
  | .closed => .ok ()
  | .broken fault => broken fault
  | .item _ _ => broken .malformed

/-- Takes the next item of an array of which `taken` items are taken already. -/
def nextItem {α : Type} (inner : Decoder α) (taken : Nat) (expected : String) :
    Items → Except Problem (α × Items)
  | .closed => wrong (.invalidLength taken expected)
  | .broken fault => broken fault
  | .item first rest => (inner first).map fun a => (a, rest)

/-- Takes an array of two values. -/
def pair {α β : Type} (first : Decoder α) (second : Decoder β) : Decoder (α × β)
  | .array is => do
      let (a, is) ← nextItem first 0 "a tuple of size 2" is
      let (b, is) ← nextItem second 1 "a tuple of size 2" is
      endOfItems is
      return (a, b)
  | d => unexpected "a tuple of size 2" d

/-- Takes the key of a member; only a text in quotes is a key. -/
def key : Draft → Except Problem String
  | .string s => .ok s
  | .brokenText read _ => broken read
  | .missing fault => broken fault
  | _ => broken .malformed

/-- When a field of a record may be left out. -/
inductive Presence where
  /-- Never. -/
  | required
  /-- In an object, but not in an array. -/
  | nullable
  /-- In an object and at the end of an array. -/
  | defaulted
deriving DecidableEq

/-- A field of a record of type `σ`: its key, whether it may be left out, and how it is set. -/
structure Slot (σ : Type) where
  /-- The key of the field. -/
  key : String
  /-- When the field may be left out. -/
  presence : Presence
  /-- Takes the value of the field and puts it into the record. -/
  put : Draft → σ → Except Problem σ

/-- A field whose value is taken by a decoder. -/
def slot {σ α : Type} (key : String) (presence : Presence) (inner : Decoder α)
    (set : α → σ → σ) : Slot σ :=
  ⟨key, presence, fun d s => (inner d).map fun a => set a s⟩

/-- The first field that must be given and is not among the keys `seen`. -/
def firstMissing? {σ : Type} (slots : List (Slot σ)) (seen : List String) : Option String :=
  (slots.find? fun s => s.presence == .required && !seen.contains s.key).map (·.key)

/-- Takes the members of an object into a record. -/
def members {σ : Type} (slots : List (Slot σ)) (seen : List String) (record : σ) :
    Members → Except Problem σ
  | .closed =>
      match firstMissing? slots seen with
      | some name => wrong (.missingField name)
      | none => .ok record
  | .broken fault => broken fault
  | .member k d rest =>
      match key k with
      | .error p => .error p
      | .ok name =>
          match slots.find? (·.key == name) with
          | none =>
              match skip d with
              | .error p => .error p
              | .ok _ => members slots seen record rest
          | some s =>
              if seen.contains name then wrong (.duplicateField name)
              else match s.put d record with
                | .error p => .error p
                | .ok record => members slots (name :: seen) record rest

/-- Takes the items of an array into the fields of a record, in their order. -/
def fields {σ : Type} (expected : String) (taken : Nat) (record : σ) :
    List (Slot σ) → Items → Except Problem σ
  | [], is => (endOfItems is).map fun _ => record
  | s :: slots, .closed =>
      if s.presence = .defaulted then fields expected taken record slots .closed
      else wrong (.invalidLength taken expected)
  | _ :: _, .broken fault => broken fault
  | s :: slots, .item d rest =>
      match s.put d record with
      | .error p => .error p
      | .ok record => fields expected (taken + 1) record slots rest

/-- Takes a record, starting from the value that holds what may be left out. -/
def record {σ : Type} (name : String) (slots : List (Slot σ)) (start : σ) : Decoder σ
  | .object ms => members slots [] start ms
  | .array is => fields ("struct " ++ name) 0 start slots is
  | d => unexpected ("struct " ++ name) d

/-- An alternative: a mere name, or a name with a value. -/
inductive Variant (α : Type) where
  /-- The name stands for a value. -/
  | plain (value : α)
  /-- The name says what the value that is given with it means. -/
  | wrap (inner : Decoder α)

/-- The alternative with a name. -/
def variantNamed {α : Type} (table : List (String × Variant α)) (name : String) :
    Except Problem (Variant α) :=
  match table.lookup name with
  | some v => .ok v
  | none => wrong (.unknownVariant name (table.map (·.1)))

/-- Takes the name of an alternative that is given as a key. -/
def variantKey : Draft → Except Problem String
  | .string s => .ok s
  | d => unexpected "variant identifier" d

/-- The end of an object of which the only member is taken. -/
def endOfMembers : Members → Except Problem Unit
  | .closed => .ok ()
  | .broken fault => broken fault
  | .member _ _ _ => broken .malformed

/-- Takes one of several alternatives. -/
def variant {α : Type} (table : List (String × Variant α)) : Decoder α
  | .string name => do
      match ← variantNamed table name with
      | .plain value => return value
      | .wrap _ => wrong (.invalidType .unitVariant "newtype variant")
  | .object (.member k d rest) => do
      let value ←
        match ← variantNamed table (← variantKey k) with
        | .plain value => (unit d).map fun _ => value
        | .wrap inner => inner d
      endOfMembers rest
      return value
  | .object (.broken fault) => broken fault
  | .brokenText read _ => broken read
  | .missing fault => broken fault
  | _ => broken .malformed

/-- Takes one of several values by its name. -/
def named {α : Type} (table : List (String × α)) : Decoder α :=
  variant (table.map fun entry => (entry.1, .plain entry.2))

/-- Takes a value out of a text that holds nothing else. -/
def text {α : Type} (inner : Decoder α) (source : String) : Except Problem α := do
  let (d, rest) := Draft.ofChars source.toList
  let value ← inner d
  match rest.map Draft.skipBlanks with
  | some [] => return value
  | _ => broken .malformed

end Decode

end BeanMapper.Json
