import BeanMapper.Proofs.Java.Setters
import BeanMapper.Java.Naming

/-! # Types as they are written — extraction is reading, then adding setters

    How setters are added is a setting of a walk over the whole tree.  The
    walk does not depend on it:

    * `sitesIn` lists the places of a tree, and `declarationsIn_eq_filterMap`
      says that extraction looks at each of them once;
    * `Written` is what stands at such a place, a declaration without added
      setters and its fields with their modifiers (`writtenAt?`), and
      `declarationAt?_eq_completed` says that setters are added to nothing else;
    * `extract_eq_completed`: **what is extracted are the types as they are
      written, each completed by itself.** -/

namespace BeanMapper.Java

variable {source : List Char} {s : Synthesis} {n : Node} {above : List Node}

/-! ## The places of a tree -/

mutual

/-- The places in a node, given the nodes above it, each one before those inside it. -/
def sitesIn (above : List Node) : Node → List Site
  | .mk kind role start stop children =>
      let n := Node.mk kind role start stop children
      ⟨n, above⟩ :: sitesInAll (n :: above) children

/-- The places in some nodes, given the nodes above them. -/
def sitesInAll (above : List Node) : List Node → List Site
  | [] => []
  | n :: ns => sitesIn above n ++ sitesInAll above ns

end

mutual

/-- **Extraction looks at every place of a tree once**, in their order. -/
theorem declarationsIn_eq_filterMap : ∀ (n : Node) (above : List Node),
    declarationsIn source s above n
      = (sitesIn above n).filterMap fun site => declarationAt? source s site.node site.above
  | .mk kind role start stop children, above => by
      rw [declarationsIn, sitesIn, declarationsInAll_eq_filterMap children]
      cases h : declarationAt? source s (.mk kind role start stop children) above with
      | none => simp [h]
      | some d => simp [h]

theorem declarationsInAll_eq_filterMap : ∀ (ns : List Node) (above : List Node),
    declarationsInAll source s above ns
      = (sitesInAll above ns).filterMap fun site => declarationAt? source s site.node site.above
  | [], above => rfl
  | n :: ns, above => by
      rw [declarationsInAll, sitesInAll, List.filterMap_append, declarationsIn_eq_filterMap n,
        declarationsInAll_eq_filterMap ns]

end

/-! ## What is written at a place -/

/-- A type as it is written. -/
structure Written where
  /-- Its declaration without added setters. -/
  declaration : Declaration
  /-- Its fields with their modifiers. -/
  fields : List FieldEntry

namespace Written

/-- The declaration with the setters that are added to it. -/
def completed (s : Synthesis) (w : Written) : Declaration := s.complete w.declaration w.fields

/-- The type as read from a file, if it was read from one. -/
def readFrom (w : Written) : Option String → Written
  | some path => { w with declaration := w.declaration.withOrigin path }
  | none => w

/-- A declaration lists the fields that are written in it, as its own. -/
def ListsFields (w : Written) : Prop :=
  w.declaration.fields = w.fields.map fun f => ⟨f.name, w.declaration.typeName⟩

end Written

/-- How no setters are added. -/
def Synthesis.off : Synthesis := { isOn := false }

theorem Synthesis.complete_off (d : Declaration) (fields : List FieldEntry) :
    Synthesis.off.complete d fields = d :=
  complete_of_not (fun h => absurd h.1 (by decide)) fields

/-- The type that a node declares or holds, given the nodes above it, as it is written. -/
def writtenAt? (source : List Char) (n : Node) (above : List Node) : Option Written :=
  match declarationKind? n.kind with
  | some kind =>
      (declaredName? source n above).map fun name =>
        ⟨namedDeclaration source .off kind name n,
          componentsOf source n ++ (membersOf? (n.child? .body)).flatMap (fieldsOfMember source)⟩
  | none =>
      (anonymousBody? n).map fun body =>
        ⟨anonymousDeclaration source body, (membersOf body).flatMap (fieldsOfMember source)⟩

/-- The declaration of a named type is completed from what is written. -/
theorem namedDeclaration_eq_complete (kind : DeclarationKind) (name : TypeName) :
    namedDeclaration source s kind name n
      = s.complete (namedDeclaration source .off kind name n)
          (componentsOf source n
            ++ (membersOf? (n.child? .body)).flatMap (fieldsOfMember source)) := by
  rw [namedDeclaration, namedDeclaration, Synthesis.complete_off]

/-- A type without a name is no class, so nothing is added to it. -/
theorem complete_anonymousDeclaration (body : Node) (fields : List FieldEntry) :
    s.complete (anonymousDeclaration source body) fields = anonymousDeclaration source body :=
  Synthesis.complete_of_not
    (fun h => absurd h.2 (show DeclarationKind.anonymousType ≠ .classType by decide)) fields

/-- **Setters are added to what is written at a place**, and nothing else depends on them. -/
theorem declarationAt?_eq_completed :
    declarationAt? source s n above = (writtenAt? source n above).map (·.completed s) := by
  rw [declarationAt?, writtenAt?]
  cases declarationKind? n.kind with
  | some kind =>
      simp only [Option.map_map]
      refine Option.map_congr fun name _ => ?_
      exact namedDeclaration_eq_complete kind name
  | none =>
      simp only [Option.map_map]
      refine Option.map_congr fun body _ => ?_
      exact (complete_anonymousDeclaration body _).symm

theorem listsFields_of_writtenAt? {w : Written} (h : writtenAt? source n above = some w) :
    w.ListsFields := by
  rw [writtenAt?] at h
  split at h
  · obtain ⟨name, -, rfl⟩ := Option.map_eq_some_iff.mp h
    show (namedDeclaration source .off _ name n).fields = _
    rw [namedDeclaration, Synthesis.complete_off]
  · obtain ⟨body, -, rfl⟩ := Option.map_eq_some_iff.mp h
    rfl

/-! ## What is extracted from a tree -/

/-- The types of a tree as they are written, an outer one before the ones inside it. -/
def written (source : List Char) (origin : Option String) (root : Node) : List Written :=
  ((sitesIn [] root).filterMap fun site => writtenAt? source site.node site.above).map
    (·.readFrom origin)

theorem listsFields_of_mem_written {origin : Option String} {root : Node} {w : Written}
    (h : w ∈ written source origin root) : w.ListsFields := by
  obtain ⟨plain, hplain, rfl⟩ := List.mem_map.mp h
  obtain ⟨site, -, hsite⟩ := List.mem_filterMap.mp hplain
  have hlists := listsFields_of_writtenAt? hsite
  cases origin with
  | none => exact hlists
  | some path => exact hlists

/-- Adding setters to a declaration does not depend on where it was read from. -/
theorem Synthesis.complete_withOrigin (d : Declaration) (fields : List FieldEntry) (path : String) :
    s.complete (d.withOrigin path) fields = (s.complete d fields).withOrigin path := by
  by_cases h : s.isOn = true ∧ d.kind = .classType
  · have hclass : (d.withOrigin path).kind = .classType := h.2
    rw [complete_of_class h.1 h.2, complete_of_class h.1 hclass]
    rfl
  · have hnot : ¬ (s.isOn = true ∧ (d.withOrigin path).kind = .classType) := h
    rw [complete_of_not h, complete_of_not hnot]

/-- **What is extracted from a tree are its types as they are written, each completed by itself.** -/
theorem extract_eq_completed (source : List Char) (s : Synthesis) (origin : Option String)
    (root : Node) :
    extract source s origin root = (written source origin root).map (·.completed s) := by
  have hplain : declarationsIn source s [] root
      = ((sitesIn [] root).filterMap fun site => writtenAt? source site.node site.above).map
          (·.completed s) := by
    rw [declarationsIn_eq_filterMap, List.map_filterMap]
    simp only [declarationAt?_eq_completed]
  rw [extract, written, hplain, List.map_map, List.map_map]
  refine List.map_congr_left fun w _ => ?_
  cases origin with
  | none => rfl
  | some path => exact (Synthesis.complete_withOrigin w.declaration w.fields path).symm

end BeanMapper.Java
