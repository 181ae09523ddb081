import BeanMapper.Command.Arguments
import BeanMapper.Command.Report
import BeanMapper.ConfigFile
import BeanMapper.Project

/-!
# Runs — what a command does to the files and what it tells

    A command works on the files step by step: a step that fails ends it, and
    what the steps before have done to the files stays.  Only two things change
    files: a snippet that is written into its file, and a configuration file
    that is made.
-/

namespace BeanMapper.Command

/-- A file with a cursor in it, and what can be seen from there. -/
structure Opened where
  /-- The location of the cursor as it was given. -/
  location : Location
  /-- The settings for the file. -/
  config : Config
  /-- The file among the other files of its project. -/
  project : Project
  /-- The byte offset of the cursor. -/
  offset : Nat

/-- Opens the file of a location and finds the cursor in it. -/
def opened (fs : FileSystem) (argument : String) (sourceRoot : Option String) :
    Except Trouble Opened := do
  let location ← (Location.parse argument).mapError .location
  if !fs.isFile location.path then throw (.noFile location.path)
  let config ← (ConfigFile.discover fs location.path).mapError (.configuration location.path)
  let project ← (Project.load fs config location.path sourceRoot).mapError (.project location.path)
  let offset ← (location.resolve project.source).mapError .location
  return ⟨location, config, project, offset⟩

/-- The analysis at the cursor. -/
def Opened.analysis (o : Opened) : Except Trouble Analysis :=
  (o.project.analyze o.config o.offset).mapError fun reason => .other (.abort reason)

/-- Puts a snippet into the file at the cursor; the answer is the new text with its caret. -/
def Opened.insertion (o : Opened) (g : GeneratedText) : Except Trouble Insertion :=
  (Insertion.insert o.project.source o.offset g.text o.config.insertionUnit).mapError fun e =>
    .other (.insertion e)

/-- What a command does with the files: it gives a value or ends in trouble, and either way the
    files are then as it left them. -/
abbrev Activity (α : Type) : Type := ExceptT Trouble (StateM FileSystem) α

/-- How an activity ends on given files, and the files behind it. -/
def Activity.on {α : Type} (a : Activity α) (fs : FileSystem) : Except Trouble α × FileSystem :=
  a.run.run fs

/-- Goes on with the files that a step leaves behind, if it does not fail. -/
def leave (after : Except Trouble FileSystem) : Activity Unit := do set (← after)

/-- A value as an answer. -/
def jsonText (v : Json.Value) : String := v.text ++ "\n"

/-- Makes the snippet for a cursor and shows it. -/
def showSnippet (o : Opened) (json : Bool) : Activity String := do
  let g := (← o.analysis).generated
  return if json then jsonText (Schema.ofGeneratedText g) else g.text ++ "\n"

/-- Makes the snippet for a cursor and puts it into the file. -/
def writeSnippet (o : Opened) (json : Bool) : Activity String := do
  let g := (← o.analysis).generated
  let path := o.location.path
  let insertion ← o.insertion g
  leave (((← get).write path insertion.text).mapError (.writing path))
  let caret := (Position.fromOffset? insertion.text insertion.caret).getD ⟨0, 0⟩
  return if json then jsonText (Schema.ofGeneratedText g) else Report.inserted g path caret

/-- Shows what is found out at a cursor. -/
def showAnalysis (o : Opened) (json : Bool) : Activity String := do
  let a ← o.analysis
  return if json then jsonText (Schema.ofAnalysis a) else
    Report.analysis a o.location.display o.project.index.size o.config.nullLiteral

/-- The path of the configuration file that is made in a directory. -/
def newConfigPath (fs : FileSystem) (directory : Option String) : String :=
  Path.join (directory.getD fs.workingPath) ConfigFile.preferredName

/-- Makes a configuration file with the default settings. -/
def createConfig (directory : Option String) (force : Bool) : Activity String := do
  let fs ← get
  let path := newConfigPath fs directory
  if fs.pathExists path && !force then return Report.configExists path
  leave ((ConfigFile.save fs path Config.default).mapError (.saving path))
  return Report.configCreated path

/-- What a command does, up to its answer. -/
def answer : Command → Activity String
  | .generate location sourceRoot write json => do
      let o ← opened (← get) location sourceRoot
      if write then writeSnippet o json else showSnippet o json
  | .analyze location sourceRoot json => do showAnalysis (← opened (← get) location sourceRoot) json
  | .init directory force => createConfig directory force

/-! ## What a command can see -/

/-- The path of the file that a command works on. -/
def file? : Command → Option String
  | .generate location .. => ((Location.parse location).toOption).map (·.path)
  | .analyze location .. => ((Location.parse location).toOption).map (·.path)
  | .init .. => none

/-- The directories in which a command looks for single files. -/
def directories (c : Command) : List String :=
  match c with
  | .init directory _ => [directory.getD "."]
  | c => (c.file?.map fun path => Path.ancestors (Path.directoryOf path)).getD []

/-- The directory that a command walks through, once the files in `directories` are known. -/
def tree? (fs : FileSystem) (c : Command) : Option String :=
  match c with
  | .generate _ given _ _ => c.file?.map fun path => Project.sourceRoot fs path given
  | .analyze _ given _ => c.file?.map fun path => Project.sourceRoot fs path given
  | .init .. => none

/-! ## Runs -/

/-- How a run ends. -/
structure Outcome where
  /-- Zero after an answer, two if the command line cannot be understood, and one otherwise. -/
  exitCode : Nat
  /-- What is told as an answer. -/
  output : String
  /-- What is told about failures. -/
  errors : String
  /-- The files after the run. -/
  fileSystem : FileSystem

/-- Runs the command that words stand for, given the words for a text that does not hold what is
    expected. -/
def run (detail : Json.Problem → String) (fs : FileSystem) (words : List String) : Outcome :=
  match ofWords? words with
  | none => ⟨2, "", usage, fs⟩
  | some command =>
      match (answer command).on fs with
      | (.ok output, after) => ⟨0, output, "", after⟩
      | (.error trouble, after) => ⟨1, "", Report.trouble detail trouble, after⟩

end BeanMapper.Command
