import BeanMapper.Text.Split

/-!
# Arguments — from the words of a command line to a command

    The first word names the command.  Among the other ones, `--name` and
    letters behind a dash switch something on or, with `=` or the next word,
    set it to a value that is not empty; nothing may be given twice.  What
    starts with a dash is never a value of its own, except for a lone dash,
    and behind `--` every word is an operand.  Nothing asks for help or for
    the version.
-/

namespace BeanMapper

/-- What a run is asked to do. -/
inductive Command where
  /-- Make the snippet for a cursor and show it or put it into the file. -/
  | generate (location : String) (sourceRoot : Option String) (write json : Bool)
  /-- Show what is found out at a cursor. -/
  | analyze (location : String) (sourceRoot : Option String) (json : Bool)
  /-- Make a configuration file. -/
  | init (directory : Option String) (force : Bool)
deriving DecidableEq

namespace Command

/-- Something that a command can be told. -/
structure Flag where
  /-- Its name, for use behind two dashes. -/
  name : String
  /-- Its letter, for use behind one dash. -/
  letter : Option Char := none
  /-- Whether it has a value. -/
  hasValue : Bool := false

/-- What the words of a command line stand for. -/
inductive Item where
  /-- A word that stands for itself. -/
  | operand (word : String)
  /-- Something that is switched on. -/
  | switch (name : String)
  /-- Something that is set to a value. -/
  | setting (name value : String)
deriving DecidableEq

/-- The name of what is told, if something is told. -/
def Item.name? : Item → Option String
  | operand _ => none
  | switch name => some name
  | setting name _ => some name

/-- Whether a value is given wherever one is set. -/
def Item.hasText : Item → Bool
  | setting _ value => !value.isEmpty
  | _ => true

/-- What one word stands for, and what the next word has to be the value of. -/
abbrev Understood : Type := List Item × Option String

/-- What a word behind two dashes stands for. -/
def ofName? (flags : List Flag) (body : List Char) : Option Understood :=
  let (name, value) :=
    match Text.splitFirst? '=' body with
    | some (name, value) => (name, some (String.ofList value))
    | none => (body, none)
  match flags.find? (·.name.toList == name), value with
  | none, _ => none
  | some flag, none =>
      if flag.hasValue then some ([], some flag.name) else some ([.switch flag.name], none)
  | some flag, some value =>
      if flag.hasValue then some ([.setting flag.name value], none) else none

/-- The value that stands right behind a letter, where an equals sign may come first. -/
def attachedValue : List Char → String
  | '=' :: value => String.ofList value
  | value => String.ofList value

/-- What the letters behind one dash stand for. -/
def ofLetters? (flags : List Flag) : List Char → Option Understood
  | [] => some ([], none)
  | c :: rest =>
      match flags.find? (·.letter == some c) with
      | none => none
      | some flag =>
          if !flag.hasValue then
            (ofLetters? flags rest).map fun u => (.switch flag.name :: u.1, u.2)
          else if rest.isEmpty then some ([], some flag.name)
          else some ([.setting flag.name (attachedValue rest)], none)

/-- Whether a word starts with a dash and is more than that. -/
def isDashed (word : String) : Bool :=
  match word.toList with
  | '-' :: _ :: _ => true
  | _ => false

/-- What one word stands for. -/
def ofWord? (flags : List Flag) (word : String) : Option Understood :=
  match word.toList with
  | '-' :: '-' :: name => ofName? flags name
  | '-' :: c :: letters => ofLetters? flags (c :: letters)
  | _ => some ([.operand word], none)

/-- What the words behind the name of a command stand for. -/
def items? (flags : List Flag) : List String → Option (List Item)
  | [] => some []
  | word :: rest =>
      if word = "--" then some (rest.map .operand)
      else match ofWord? flags word, rest with
        | none, _ => none
        | some (items, none), rest => (items? flags rest).map (items ++ ·)
        | some (_, some _), [] => none
        | some (items, some name), value :: rest =>
            if isDashed value then none
            else (items? flags rest).map fun more => items ++ .setting name value :: more

/-- Whether nothing is told twice and no value is empty. -/
def areSound (items : List Item) : Bool :=
  items.all Item.hasText && decide (items.filterMap Item.name?).Nodup

/-- What the words behind the name of a command stand for, if they can be used together. -/
def given? (flags : List Flag) (words : List String) : Option (List Item) :=
  (items? flags words).filter areSound

/-- The words that stand for themselves. -/
def operands (items : List Item) : List String :=
  items.filterMap fun
    | .operand word => some word
    | _ => none

/-- The value that something is set to. -/
def value? (items : List Item) (name : String) : Option String :=
  items.findSome? fun
    | .setting n value => if n = name then some value else none
    | _ => none

/-- Whether something is switched on. -/
def isOn (items : List Item) (name : String) : Bool := items.contains (.switch name)

/-- The directory whose Java files can be seen. -/
def sourceRootFlag : Flag := ⟨"source-root", some 's', true⟩

/-- Whether the answer is written as JSON. -/
def jsonFlag : Flag := ⟨"json", none, false⟩

/-- Whether the snippet goes into the file. -/
def writeFlag : Flag := ⟨"write", some 'w', false⟩

/-- The directory that gets the configuration file. -/
def directoryFlag : Flag := ⟨"cwd", none, true⟩

/-- Whether a configuration file that is there is replaced. -/
def forceFlag : Flag := ⟨"force", some 'f', false⟩

/-- The command to make a snippet. -/
def generate? (words : List String) : Option Command := do
  let items ← given? [writeFlag, jsonFlag, sourceRootFlag] words
  match operands items with
  | [location] =>
      some (.generate location (value? items sourceRootFlag.name) (isOn items writeFlag.name)
        (isOn items jsonFlag.name))
  | _ => none

/-- The command to show what is found out. -/
def analyze? (words : List String) : Option Command := do
  let items ← given? [jsonFlag, sourceRootFlag] words
  match operands items with
  | [location] =>
      some (.analyze location (value? items sourceRootFlag.name) (isOn items jsonFlag.name))
  | _ => none

/-- The command to make a configuration file. -/
def init? (words : List String) : Option Command := do
  let items ← given? [directoryFlag, forceFlag] words
  match operands items with
  | [] => some (.init (value? items directoryFlag.name) (isOn items forceFlag.name))
  | _ => none

/-- The names of the commands, with how the words behind them are read. -/
def readers : List (String × (List String → Option Command)) :=
  [("generate", generate?), ("g", generate?), ("analyze", analyze?), ("a", analyze?),
   ("init", init?)]

/-- The command that the words of a command line stand for. -/
def ofWords? : List String → Option Command
  | [] => none
  | name :: words => (readers.lookup name).bind fun read => read words

/-- How a command line is written. -/
def usage : String :=
  "Usage: o2ox generate [-w] [--json] [-s DIR] FILE:LINE[:COLUMN]\n"
    ++ "       o2ox analyze [--json] [-s DIR] FILE:LINE[:COLUMN]\n"
    ++ "       o2ox init [--cwd DIR] [-f]\n"

end Command

end BeanMapper
