import BeanMapper.Java.Grammar.Declarations

/-!
# Grammar — from a text to its tree

    Every goal has its rule, and a file is a list of statements and methods.
    Rules reach goals with one unit less of a bound that no text exhausts: a
    rule reaches only a few other goals before it reads a token.  Comments are
    put into the tree afterwards, each into the innermost node around it.

    A text that breaks the grammar has no tree: there are no nodes for errors,
    and no part of such a text is recovered.
-/

namespace BeanMapper.Java

namespace Grammar

open BeanMapper.Java.Parser

/-- The rule of a goal. -/
def rule : Goal → Parser (List Node)
  | .type => one type
  | .annotationUse => one annotation
  | .expression => one expression
  | .condition => one condition
  | .operands level => one (operands level)
  | .unary => one unary
  | .elementValue => one elementValue
  | .arrayInitializer => one arrayInitializer
  | .block => one block
  | .statement => anyStatement false
  | .topLevelStatement => anyStatement true
  | .switchExpression => one switchExpression
  | .classBody => one classBody

/-- Reads what a goal asks for, with at most `fuel` goals inside each other. -/
def reachUpTo : Nat → Goals
  | 0, _ => failure
  | fuel + 1, goal => rule goal (reachUpTo fuel)

/-- All statements up to the end of the tokens. -/
def statements : Parser (List Node) :=
  many (do return (← next?).isSome) (reach .topLevelStatement)

/-- The goals that may be reached inside each other, for every token. -/
def goalsPerToken : Nat := 16

/-- Reads all tokens. -/
def readAll? (tokens : List Token) : Option (List Node) :=
  let bound := goalsPerToken * (tokens.length + 1)
  match statements (reachUpTo bound) ⟨tokens, 0⟩ with
  | some (nodes, ⟨[], _⟩) => some nodes
  | _ => none

end Grammar

namespace Node

/-- Whether a node begins before another one and ends after it. -/
def surrounds (outer inner : Node) : Bool := outer.start < inner.start && inner.stop < outer.stop

mutual

/-- The node with a comment put into the innermost node around it. -/
def withComment (comment : Node) : Node → Node
  | mk kind role start stop children =>
      mk kind role start stop (placeComment comment children)

/-- The nodes with a comment put into the one around it, or between them. -/
def placeComment (comment : Node) : List Node → List Node
  | [] => [comment]
  | n :: ns =>
      if n.surrounds comment then withComment comment n :: ns
      else if comment.stop ≤ n.start then comment :: n :: ns
      else n :: placeComment comment ns

end

end Node

/-- The node over a whole file. -/
def program (length : Nat) (nodes comments : List Node) : Node :=
  .mk .program .none 0 length (comments.foldl (fun ns c => Node.placeComment c ns) nodes)

/-- The tree of a text, if the text is well formed. -/
def parse? (text : String) : Option Node := do
  let source := text.toList
  let lexed ← Lexer.lex? source
  let nodes ← Grammar.readAll? lexed.tokens
  return program (Text.byteLength source) nodes lexed.comments

/-- Whether a text is well formed. -/
def isWellFormed (text : String) : Bool := (parse? text).isSome

end BeanMapper.Java
