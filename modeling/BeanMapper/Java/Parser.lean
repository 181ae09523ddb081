import BeanMapper.Java.Token

/-!
# Parsers — reading nodes off a list of tokens

    A parser reads tokens from the front of a list or fails.  The rules of the
    grammar refer to each other through goals: a parser is given a way to
    reach any goal and never calls another rule's recursion itself, so each
    rule is a definition of its own.  Choices are made by looking ahead, not
    by going back.
-/

namespace BeanMapper.Java

/-- What the rules of the grammar can ask each other for. -/
inductive Goal where
  | type
  | annotationUse
  | expression
  /-- An expression that is no lambda expression. -/
  | condition
  /-- An expression whose operators bind at least as tightly as the given level. -/
  | operands (level : Nat)
  | unary
  | elementValue
  | arrayInitializer
  | block
  | statement
  | topLevelStatement
  | switchExpression
  | classBody

/-- The tokens that are still to be read, and where the last one that was read ends. -/
structure Reader where
  /-- The tokens that are still to be read. -/
  rest : List Token
  /-- The offset after the last token that was read. -/
  last : Nat

/-- A way to reach any goal. -/
abbrev Goals : Type := Goal → StateT Reader Option (List Node)

/-- A parser of the grammar. -/
abbrev Parser (α : Type) : Type := ReaderT Goals (StateT Reader Option) α

namespace Parser

/-- Reads what a goal asks for. -/
def reach (goal : Goal) : Parser (List Node) := fun goals => goals goal

/-- Reads what a goal asks for, which is one node. -/
def reachOne (goal : Goal) : Parser Node := do
  match ← reach goal with
  | [n] => return n
  | _ => failure

/-- The token some places ahead. -/
def ahead? (n : Nat) : Parser (Option Token) := fun _ r => some (r.rest[n]?, r)

/-- The next token. -/
def next? : Parser (Option Token) := ahead? 0

/-- Reads any token. -/
def token : Parser Token := fun _ r =>
  match r.rest with
  | [] => none
  | t :: rest => some (t, ⟨rest, t.stop⟩)

/-- Whether a token is the given symbol. -/
def isSymbol (s : String) : Option Token → Bool
  | some t => t.shape == .symbol && t.text == s
  | none => false

/-- Whether a token is the given word. -/
def isWord (w : String) : Option Token → Bool
  | some t => t.shape == .word && t.text == w
  | none => false

/-- Whether the next token is the given symbol. -/
def atSymbol (s : String) : Parser Bool := do return isSymbol s (← next?)

/-- Whether the next token is the given word. -/
def atWord (w : String) : Parser Bool := do return isWord w (← next?)

/-- Reads the given symbol. -/
def symbol (s : String) : Parser Unit := do
  guard (← atSymbol s)
  let _ ← token

/-- Reads the given word. -/
def word (w : String) : Parser Unit := do
  guard (← atWord w)
  let _ ← token

/-- Reads the given symbol if it stands there, and says whether it does. -/
def trySymbol (s : String) : Parser Bool := do
  if ← atSymbol s then
    let _ ← token
    return true
  else return false

/-- Reads the given word if it stands there, and says whether it does. -/
def tryWord (w : String) : Parser Bool := do
  if ← atWord w then
    let _ ← token
    return true
  else return false

/-- Whether a parser would succeed; nothing is read. -/
def canRead {α : Type} (p : Parser α) : Parser Bool := fun goals r =>
  match p goals r with
  | some _ => some (true, r)
  | none => some (false, r)

/-- Reads what a parser reads if a condition holds. -/
def onlyIf (b : Bool) (p : Parser (List Node)) : Parser (List Node) :=
  if b then p else return []

/-- Applies a parser again and again while a condition holds, at most `fuel` times. -/
def manyUpTo (condition : Parser Bool) (p : Parser (List Node)) : Nat → Parser (List Node)
  | 0 => return []
  | fuel + 1 => do
      if ← condition then
        let first ← p
        return first ++ (← manyUpTo condition p fuel)
      else return []

/-- Applies a parser that reads a token at least again and again while a condition holds. -/
def many (condition : Parser Bool) (p : Parser (List Node)) : Parser (List Node) := fun goals r =>
  manyUpTo condition p (r.rest.length + 1) goals r

/-- Lets a node grow by a parser again and again while that succeeds, at most `fuel` times. -/
def growUpTo (step : Node → Parser Node) : Nat → Node → Parser Node
  | 0, n => return n
  | fuel + 1, n => fun goals r =>
      match step n goals r with
      | some (bigger, r) => growUpTo step fuel bigger goals r
      | none => some (n, r)

/-- Lets a node grow by a parser again and again while that succeeds. -/
def grow (step : Node → Parser Node) (n : Node) : Parser Node := fun goals r =>
  growUpTo step (r.rest.length + 1) n goals r

/-- Reads what a parser reads once or more often, with a symbol in between. -/
def separatedBy (separator : String) (p : Parser (List Node)) : Parser (List Node) := do
  let first ← p
  let more ← many (atSymbol separator) do
    symbol separator
    p
  return first ++ more

/-- Reads items with commas in between up to a closing symbol. -/
def listUntil (close : String) (p : Parser (List Node)) : Parser (List Node) := do
  let items ← onlyIf (!(← atSymbol close)) (separatedBy "," p)
  symbol close
  return items

/-- Reads items with commas in between up to a closing symbol; a comma may stand at the end, even
    without items. -/
def looseListUntil (close : String) (p : Parser (List Node)) : Parser (List Node) := do
  let isBare ← trySymbol ","
  let items ← onlyIf (!isBare) <| many (do return !(← atSymbol close)) do
    let item ← p
    guard ((← trySymbol ",") || (← atSymbol close))
    return item
  symbol close
  return items

/-- Reads a number of tokens. -/
def skip : Nat → Parser Unit
  | 0 => return
  | n + 1 => do
      let _ ← token
      skip n

/-- Where the next token starts. -/
def position : Parser Nat := do
  match ← next? with
  | some t => return t.start
  | none => failure

/-- Where the last token that was read ends. -/
def lastStop : Parser Nat := fun _ r => some (r.last, r)

/-- A node over everything that a parser reads, of the kind that it finds. -/
def spanOf (p : Parser (Kind × List Node)) : Parser Node := do
  let start ← position
  let (kind, children) ← p
  return .mk kind .none start (← lastStop) children

/-- A node over everything that a parser reads. -/
def span (kind : Kind) (p : Parser (List Node)) : Parser Node := spanOf do return (kind, ← p)

/-- A node that starts where its first child does and ends with what a parser reads, of the kind
    that it finds. -/
def afterOf (first : Node) (p : Parser (Kind × List Node)) : Parser Node := do
  let (kind, more) ← p
  return .mk kind .none first.start (← lastStop) (first :: more)

/-- A node that starts where its first child does and ends with what a parser reads. -/
def after (first : Node) (kind : Kind) (p : Parser (List Node)) : Parser Node :=
  afterOf first do return (kind, ← p)

/-- A node over the next token. -/
def leaf (kind : Kind) : Parser Node := span kind do
  let _ ← token
  return []

/-- A node in a role, as the only one of a list. -/
def as (role : Role) (p : Parser Node) : Parser (List Node) := do return [(← p).inRole role]

/-- A node as the only one of a list. -/
def one (p : Parser Node) : Parser (List Node) := do return [← p]

end Parser

end BeanMapper.Java
