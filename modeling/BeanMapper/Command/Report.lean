import BeanMapper.Failure
import BeanMapper.Location
import BeanMapper.Mapping.Analysis
import BeanMapper.Mapping.Table
import BeanMapper.Schema.Mapping

/-!
# Reports — what a command tells its user

    An answer is a text of whole lines.  A command that ends without an answer
    says what failed and, below that, why: a single cause behind four blanks,
    several causes numbered.  That there is nothing to generate at a cursor is
    no failure of the command, and a line of its own says so.
-/

namespace BeanMapper

/-- Why a command ends without an answer. -/
inductive Trouble where
  /-- An argument is no location, or no place in its file. -/
  | location (fault : Location.Fault)
  /-- There is no file to work on. -/
  | noFile (path : String)
  /-- The settings for a file cannot be read. -/
  | configuration (path : String) (cause : Failure)
  /-- A file cannot be read. -/
  | project (path : String) (cause : Failure)
  /-- A file cannot be written. -/
  | writing (path : String) (cause : FileError)
  /-- A configuration file cannot be written. -/
  | saving (path : String) (cause : Failure)
  /-- The snippet cannot be made or inserted. -/
  | other (failure : Failure)

namespace Report

/-! ## Lines -/

/-- A text of lines. -/
def lines (ls : List String) : String := String.join (ls.map (· ++ "\n"))

/-- The margin of everything that belongs to a heading. -/
def margin : String := "   "

/-! ## Answers -/

/-- How many setters take a field. -/
def matchedShare (g : GeneratedText) : String :=
  toString g.matchedCount ++ "/" ++ toString g.matched.length

/-- What is told about a snippet that was inserted. -/
def inserted (g : GeneratedText) (path : String) (caret : Position) : String :=
  lines
    ["✅ Mapped " ++ g.source.name ++ " -> " ++ g.target.name ++ " (" ++ g.mode.description ++ ", "
       ++ matchedShare g ++ " setters matched)",
     margin ++ "Caret: " ++ path ++ ":" ++ toString (caret.line.toNat + 1) ++ ":"
       ++ toString (caret.character.toNat + 1)]

/-- The setters with their fields, one a line. -/
def setterLines (g : GeneratedText) (nullLabel : String) : List String :=
  if g.matched.isEmpty then ["(none)"] else Table.rows g.matched nullLabel

/-- The lines of a snippet. -/
def snippetLines (g : GeneratedText) : List String :=
  (Text.lines g.text.toList).map String.ofList

/-- The width of the rule below the first line. -/
def ruleWidth : Nat := 80

/-- What is told about an analysis, given how many declarations can be looked up. -/
def analysis (a : Analysis) (location : String) (indexed : Nat) (nullLabel : String) : String :=
  lines <|
    ["🔍 Analyzing: " ++ location,
     String.ofList (List.replicate ruleWidth '='),
     "📍 Method: " ++ a.context.methodName,
     "🎯 Target: " ++ a.context.target.name,
     "📦 Source: " ++ a.context.source.name,
     "🔧 Mode: " ++ a.generated.mode.description,
     "📚 Indexed declarations: " ++ toString indexed,
     "",
     "🔗 Setters (" ++ matchedShare a.generated ++ " matched):"]
      ++ (setterLines a.generated nullLabel).map (margin ++ ·)
      ++ ["", "📝 Snippet:"]
      ++ (snippetLines a.generated).map (margin ++ ·)

/-- What is told about a configuration file that is there already. -/
def configExists (path : String) : String :=
  lines ["❌ Config already exists at: " ++ path, margin ++ "Use --force to overwrite"]

/-- What is told about a configuration file that was made. -/
def configCreated (path : String) : String := lines ["✅ Created config: " ++ path]

/-! ## Failures -/

/-- A failure and what caused it, outermost first, given the words for a text that does not hold
    what is expected. -/
def failureChain (detail : Json.Problem → String) (f : Failure) : List String :=
  match f with
  | .file error => [f.messageWith detail, error.message]
  | f => [f.messageWith detail]

/-- What failed and why, outermost first, given the words for a text that does not hold what is
    expected. -/
def chain (detail : Json.Problem → String) : Trouble → List String
  | .location fault => [fault.message]
  | .noFile path => ["File not found: " ++ path]
  | .configuration path cause =>
      ("Failed to load configuration for " ++ path) :: failureChain detail cause
  | .project path cause => ("Failed to load " ++ path) :: failureChain detail cause
  | .writing path cause => ["Failed to write " ++ path, cause.message]
  | .saving path cause => ("Failed to write config to " ++ path) :: failureChain detail cause
  | .other failure => failureChain detail failure

/-- A text behind a mark; its further lines are as far to the right as the first one. -/
def behind (mark text : String) : String :=
  let blanks := String.ofList (List.replicate mark.length ' ')
  let ls := (Text.splitLines text.toList).map String.ofList
  mark ++ ("\n" ++ blanks).intercalate ls

/-- The mark before a cause that is one of several. -/
def causeMark (n : Nat) : String :=
  let digits := (toString n).toList
  String.ofList (List.replicate (5 - digits.length) ' ' ++ digits) ++ ": "

/-- The causes below a failure. -/
def causeLines : List String → List String
  | [] => []
  | [cause] => ["", "Caused by:", behind "    " cause]
  | causes => ["", "Caused by:"] ++ causes.mapIdx fun n cause => behind (causeMark n) cause

/-- What is told about a failure and its causes. -/
def error : List String → String
  | [] => ""
  | message :: causes => lines (("Error: " ++ message) :: causeLines causes)

/-- What is told about a command that ends without an answer, given the words for a text that does
    not hold what is expected. -/
def trouble (detail : Json.Problem → String) : Trouble → String
  | .other (.abort reason) => lines ["⚠️  O2OX: " ++ reason.userMessage]
  | t => error (chain detail t)

end Report

end BeanMapper
