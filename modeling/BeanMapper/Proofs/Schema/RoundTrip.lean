import BeanMapper.Proofs.Json.Codecs
import BeanMapper.Schema.Mapping

/-!
# Round trip — what is printed is read back

    Each schema has the law of its codec, from the parts of the record to the
    record: names and members first, then annotations and declarations, then
    snippets and analyses.  Two records leave a member out, an annotation
    without attributes and a declaration without an origin; the fields for
    these members need not be given, and a field that is not given keeps what
    the reader starts from, which is just the value that was left out.  The
    texts of all the records are then read back
    (`printed_records_read_back`). -/

namespace BeanMapper

/-- What stands under a key of an object. -/
def Json.Value.member? (v : Json.Value) (key : String) : Option Json.Value :=
  match v with
  | .object members => members.lookup key
  | _ => none

namespace Schema

open Json

/-! ## Names and members -/

/-- A string or null; no string is written as null. -/
theorem readsBack_optional : ReadsBack (Decode.optional Decode.string) ofOptional := by
  have hwritten : ofOptional = fun o => o.elim .null Value.string := by
    funext o
    cases o <;> rfl
  rw [hwritten]
  exact ReadsBack.string.optional fun _ => nofun

/-- The name of a type is written as its text. -/
theorem readsBack_typeName : ReadsBack typeName ofTypeName where
  fits _ := trivial
  read _ := rfl

/-- A field has its members always. -/
theorem readsBack_field : ReadsBack field ofField :=
  .record (by decide) (fun _ => ⟨trivial, trivial, trivial⟩) fun f =>
    .given (ReadsBack.string.read f.name) <| .given (readsBack_typeName.read f.declaringType) <|
      .done _

/-- A return type without a name is a bare tag, and one with a name is wrapped in its tag. -/
theorem readsBack_returnType : ReadsBack returnType ofReturnType :=
  .variant fun r => by
    cases r with
    | missing => exact .plain rfl
    | void => exact .plain rfl
    | type name => exact .wrapped rfl trivial rfl

/-- The number of parameters has 64 bits, so it is read back as it is. -/
theorem readsBack_method : ReadsBack method ofMethod :=
  .record (by decide)
    (fun m => ⟨trivial, ReadsBack.word64.fits m.parameterCount,
      readsBack_returnType.fits m.returnType, trivial⟩) fun m =>
    .given (ReadsBack.string.read m.name) <| .given (ReadsBack.word64.read m.parameterCount) <|
      .given (readsBack_returnType.read m.returnType) <| .done _

/-! ## Annotations -/

/-- An attribute is a truth value or a text, told apart by its tag. -/
theorem readsBack_attributeValue : ReadsBack attributeValue ofAttributeValue :=
  .variant fun value => by
    cases value with
    | bool value => exact .wrapped rfl trivial rfl
    | text value => exact .wrapped rfl trivial rfl

/-- An attribute under its key is a pair. -/
theorem readsBack_keyedValue : ReadsBack keyedValue ofKeyedValue :=
  .pair .string readsBack_attributeValue

/-- Attributes are left out where there are none, and a reader starts from none. -/
theorem readsBack_annotation : ReadsBack annotation ofAnnotation :=
  .record (by decide)
    (fun ⟨name, attributes⟩ => by
      cases attributes with
      | nil => exact ⟨trivial, trivial⟩
      | cons a as => exact ⟨trivial, readsBack_keyedValue.list.fits (a :: as), trivial⟩)
    fun ⟨name, attributes⟩ => by
      refine .given (ReadsBack.string.read name) ?_
      cases attributes with
      | nil => exact .omitted (by decide) (.done _)
      | cons a as => exact .given (readsBack_keyedValue.list.read (a :: as)) (.done _)

/-! ## Declarations -/

theorem readsBack_kind : ReadsBack (Decode.named kinds) fun kind => .string (nameIn kinds kind) :=
  .named fun kind => by cases kind <;> rfl

/-- The origin is left out where there is none, and a reader starts from none. -/
theorem readsBack_declaration : ReadsBack declaration ofDeclaration :=
  .record (by decide)
    (fun d => by
      have hfields := readsBack_field.list.fits d.fields
      have hmethods := readsBack_method.list.fits d.methods
      have hannotations := (ReadsBack.list readsBack_annotation).fits d.annotations
      cases horigin : d.origin with
      | none => exact ⟨trivial, trivial, hfields, hmethods, hannotations, trivial⟩
      | some path => exact ⟨trivial, trivial, hfields, hmethods, hannotations, trivial, trivial⟩)
    fun ⟨name, kind, fields, methods, annotations, origin⟩ => by
      refine .given (readsBack_typeName.read name) <| .given (readsBack_kind.read kind) <|
        .given (readsBack_field.list.read fields) <| .given (readsBack_method.list.read methods) <|
        .given ((ReadsBack.list readsBack_annotation).read annotations) ?_
      cases origin with
      | none => exact .omitted (by decide) (.done _)
      | some path => exact .given (readsBack_optional.read (some path)) (.done _)

/-! ## Snippets, analyses and positions -/

/-- A match is written with its field, or with null for it. -/
theorem readsBack_setterMatch : ReadsBack setterMatch ofSetterMatch :=
  .record (by decide)
    (fun m => ⟨trivial, readsBack_optional.fits m.field, trivial⟩) fun m =>
    .given (ReadsBack.string.read m.setter) <| .given (readsBack_optional.read m.field) <| .done _

theorem readsBack_mode : ReadsBack mode ofMode :=
  .named fun m => by cases m <;> rfl

/-- A snippet is written with its matches and its text. -/
theorem readsBack_generatedText : ReadsBack generatedText ofGeneratedText :=
  .record (by decide)
    (fun g => ⟨trivial, trivial, trivial, readsBack_setterMatch.list.fits g.matched, trivial,
      trivial⟩) fun g =>
    .given (readsBack_typeName.read g.target) <| .given (readsBack_typeName.read g.source) <|
      .given (readsBack_mode.read g.mode) <|
      .given (readsBack_setterMatch.list.read g.matched) <|
      .given (ReadsBack.string.read g.text) <| .done _

theorem readsBack_context : ReadsBack context ofContext :=
  .record (by decide) (fun _ => ⟨trivial, trivial, trivial, trivial⟩) fun c =>
    .given (ReadsBack.string.read c.methodName) <| .given (readsBack_typeName.read c.target) <|
      .given (readsBack_typeName.read c.source) <| .done _

theorem readsBack_analysis : ReadsBack analysis ofAnalysis :=
  .record (by decide)
    (fun a => ⟨readsBack_context.fits a.context, readsBack_generatedText.fits a.generated, trivial⟩)
    fun a =>
    .given (readsBack_context.read a.context) <|
      .given (readsBack_generatedText.read a.generated) <| .done _

/-- Both numbers of a position have 32 bits, so they are read back as they are. -/
theorem readsBack_position : ReadsBack position ofPosition :=
  .record (by decide)
    (fun p => ⟨ReadsBack.word32.fits p.line, ReadsBack.word32.fits p.character, trivial⟩) fun p =>
    .given (ReadsBack.word32.read p.line) <| .given (ReadsBack.word32.read p.character) <| .done _

theorem readsBack_abort : ReadsBack abort ofAbort :=
  .named fun a => by cases a <;> rfl

/-! ## Members that are left out -/

variable {α : Type}

/-- A member is left out of what is written exactly for some values. -/
def LeavesOut (encode : α → Value) (key : String) (absent : α → Prop) : Prop :=
  ∀ a, (encode a).member? key = none ↔ absent a

/-- An annotation without attributes says nothing of them. -/
theorem leavesOut_attributes : LeavesOut ofAnnotation "attributes" (·.attributes = []) := by
  rintro ⟨name, attributes⟩
  cases attributes with
  | nil => exact iff_of_true rfl rfl
  | cons a as => exact iff_of_false nofun nofun

/-- A declaration without an origin says nothing of it. -/
theorem leavesOut_origin : LeavesOut ofDeclaration "origin" (·.origin = none) := by
  rintro ⟨name, kind, fields, methods, annotations, origin⟩
  cases origin with
  | none => exact iff_of_true rfl rfl
  | some path => exact iff_of_false nofun nofun

/-- A setter without a field is written with null. -/
theorem member?_field_eq_null_iff {m : SetterMatch} :
    (ofSetterMatch m).member? "field" = some .null ↔ m.field = none := by
  obtain ⟨setter, field⟩ := m
  cases field with
  | none => exact iff_of_true rfl rfl
  | some name => exact iff_of_false nofun nofun

/-! ## The printed texts -/

/-- The text that is printed for a value gives the very same value back. -/
def Restores (decode : Decoder α) (encode : α → Value) : Prop :=
  ∀ a, Decode.text decode (encode a).text = .ok a

/-- **What is printed is read back.**  The text over several lines of a declaration, an annotation,
    a method, a setter with its field, a position, a reason for an abort, a snippet or an analysis
    gives the very same one back, also where something is left out: the attributes of an
    annotation exactly if there are none, the origin of a declaration exactly if there is none;
    a setter without a field is written with null. -/
theorem printed_records_read_back :
    Restores declaration ofDeclaration ∧ Restores annotation ofAnnotation
      ∧ Restores method ofMethod ∧ Restores setterMatch ofSetterMatch
      ∧ Restores position ofPosition ∧ Restores abort ofAbort
      ∧ Restores generatedText ofGeneratedText ∧ Restores analysis ofAnalysis
      ∧ LeavesOut ofAnnotation "attributes" (·.attributes = [])
      ∧ LeavesOut ofDeclaration "origin" (·.origin = none)
      ∧ ∀ m, (ofSetterMatch m).member? "field" = some .null ↔ m.field = none :=
  ⟨readsBack_declaration.text, readsBack_annotation.text, readsBack_method.text,
    readsBack_setterMatch.text, readsBack_position.text, readsBack_abort.text,
    readsBack_generatedText.text, readsBack_analysis.text, leavesOut_attributes, leavesOut_origin,
    fun _ => member?_field_eq_null_iff⟩

end Schema

end BeanMapper
