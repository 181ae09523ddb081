import BeanMapper.Failure
import BeanMapper.Project

/-!
# Sessions — editing one file among others

    A session is a project under fixed settings together with the other files
    that were added to it.  Inserting a snippet changes the edited file; the
    session after it is the one that opens the new text and adds the same
    files in the same order, so it knows nothing that its files do not say.
-/

namespace BeanMapper

/-- An edited file among others, under fixed settings. -/
structure Session where
  /-- The settings. -/
  config : Config
  /-- The project of the edited file and the added ones. -/
  project : Project
  /-- The files that were added, in their order. -/
  added : List SourceFile

/-- A snippet that was generated and inserted. -/
structure Inserted where
  /-- What was generated. -/
  generated : GeneratedText
  /-- The edited text. -/
  insertion : Insertion

namespace Session

/-- A session with the edited file alone. -/
def ofSource (config : Config) (path source : String) : Session :=
  ⟨config, .ofSource config path source, []⟩

/-- The session with one more file. -/
def add (s : Session) (file : SourceFile) : Session :=
  { s with
    project := s.project.addSource file
    added := s.added ++ [file] }

/-- The session in which the edited file has another text. -/
def withText (s : Session) (source : String) : Session :=
  s.added.foldl add (ofSource s.config s.project.path source)

/-- The analysis at a byte offset of the edited file. -/
def analyze (s : Session) (offset : Nat) : Except Abort Analysis :=
  s.project.analyze s.config offset

/-- Generates a snippet at a byte offset of the edited file and inserts it there. -/
def insert (s : Session) (offset : Nat) : Except Failure (Inserted × Session) :=
  match s.analyze offset with
  | .error reason => .error (.abort reason)
  | .ok analysis =>
      let snippet := analysis.generated.text
      match Insertion.insert s.project.source offset snippet s.config.insertionUnit with
      | .error e => .error (.insertion e)
      | .ok insertion => .ok (⟨analysis.generated, insertion⟩, s.withText insertion.text)

end Session

end BeanMapper
