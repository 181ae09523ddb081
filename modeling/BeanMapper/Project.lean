import BeanMapper.ConfigFile
import BeanMapper.Java.Cursor
import BeanMapper.Java.Extract
import BeanMapper.Java.Grammar
import BeanMapper.Mapping.Analysis
import BeanMapper.TypeIndex

/-!
# Projects — the edited file and the types that can be seen from it

    A project starts with the edited file, whose declarations are registered
    first, and takes in the declarations of any number of other files.  On a
    file system these are the Java files below the source root: the nearest
    directory above the edited file with a build file in it, or else the
    directory of the edited file.

    A project knows its files by their trees (`ParsedFile`), and all that it
    does with them is done for any trees.  Only `treeOf` reads a text: from one
    that is not well formed it recovers nothing.
-/

namespace BeanMapper

/-- A file with its text. -/
structure SourceFile where
  /-- The path of the file. -/
  path : String
  /-- Its text. -/
  source : String
deriving DecidableEq

/-- A file with the tree of its text. -/
structure ParsedFile extends SourceFile where
  /-- The tree. -/
  root : Java.Node

/-- The edited file and the types that can be seen from it. -/
structure Project where
  /-- The path of the edited file. -/
  path : String
  /-- The text of the edited file. -/
  source : String
  /-- The tree of the edited file. -/
  root : Java.Node
  /-- The declarations that can be looked up. -/
  index : TypeIndex
  /-- How setters are added to classes. -/
  synthesis : Java.Synthesis

namespace Project

/-- The tree of a text; a text that is not well formed has nothing in it. -/
def treeOf (source : String) : Java.Node :=
  (Java.parse? source).getD (Java.program (Text.byteLength source.toList) [] [])

/-- A file with the tree that its text is read as. -/
def parsed (file : SourceFile) : ParsedFile := ⟨file, treeOf file.source⟩

/-- The declarations in a file. -/
def declarationsOf (synthesis : Java.Synthesis) (file : ParsedFile) : List Declaration :=
  Java.extract file.source.toList synthesis (some file.path) file.root

/-- How setters are added to classes under a configuration. -/
def synthesisOf (config : Config) : Java.Synthesis :=
  ⟨config.synthesizeLombokSetters, config.fluentMarkers⟩

/-- The project of one file. -/
def ofParsed (config : Config) (file : ParsedFile) : Project :=
  let synthesis := synthesisOf config
  ⟨file.path, file.source, file.root, TypeIndex.empty.extend (declarationsOf synthesis file),
    synthesis⟩

/-- The project with the declarations of one more file. -/
def addParsed (p : Project) (file : ParsedFile) : Project :=
  { p with index := p.index.extend (declarationsOf p.synthesis file) }

/-- The project of an edited file to which other files are added in their order. -/
def ofFiles (config : Config) (edited : ParsedFile) (added : List ParsedFile) : Project :=
  added.foldl addParsed (ofParsed config edited)

/-- The project of one text. -/
def ofSource (config : Config) (path source : String) : Project :=
  ofParsed config (parsed ⟨path, source⟩)

/-- The project with the declarations of one more text. -/
def addSource (p : Project) (file : SourceFile) : Project := p.addParsed (parsed file)

/-- What locating needs to know of the edited file. -/
def view (p : Project) : SyntaxView Java.Site := Java.syntaxView p.source.toList p.root

/-- The analysis at a byte offset of the edited file. -/
def analyze (p : Project) (config : Config) (offset : Nat) : Except Abort Analysis :=
  BeanMapper.analyze config p.view p.index.get? offset

/-- The files that mark the root of a project. -/
def markers : List String :=
  ["pom.xml", "build.gradle", "build.gradle.kts", "settings.gradle", "settings.gradle.kts",
   ConfigFile.preferredName]

/-- Whether a directory holds a file that marks the root of a project. -/
def isRoot (fs : FileSystem) (directory : String) : Bool :=
  (markers.map (Path.join directory)).any fs.isFile

/-- The nearest root of a project at or above the directory of a file. -/
def findRoot? (fs : FileSystem) (file : String) : Option String :=
  (Path.ancestors (Path.directoryOf file)).find? (isRoot fs)

/-- Whether a path is that of a Java file. -/
def isJavaFile (path : String) : Bool := (Path.fileName? path).bind Path.extension? == some "java"

/-- The Java files that a walk from a directory finds, except the one at a place. -/
def sourcesBelow (fs : FileSystem) (root : String) (edited : Option Place) :
    List SourceFile :=
  (fs.walk root).filterMap fun (path, place, content) =>
    match content with
    | .text source => if isJavaFile path && edited != some place then some ⟨path, source⟩ else none
    | .binary => none

/-- The directory whose Java files are taken in with a file: the given one, or the root of the
    project, or the directory of the file. -/
def sourceRoot (fs : FileSystem) (file : String) (given : Option String) : String :=
  given.getD ((findRoot? fs file).getD (Path.directoryOf file))

/-- The project of a file with the Java files below its source root. -/
def load (fs : FileSystem) (config : Config) (file : String) (given : Option String) :
    Except Failure Project :=
  match fs.read file with
  | .error e => .error (.file e)
  | .ok source =>
      let found := sourcesBelow fs (sourceRoot fs file given) (fs.placeOfFile? file)
      .ok (ofFiles config (parsed ⟨file, source⟩) (found.map parsed))

end Project

end BeanMapper
