/-
  From source text to a syntax tree: a module, or one expression on its own. A text that is not
  read gives the fault to blame.
-/
import Localize.Syntax.Blame
import Localize.Syntax.Grammar.Statement

namespace Localize.Syntax

open Parse

/-- The most nodes that may lie on a path of a tree, which is also the most levels of nested
constructs that are read. -/
def depthLimit : Nat := 2950

/-- Reads the tree of a construct from tokens, and refuses one that is too deep. -/
def treeOf (lexed : Lexed) (construct : Mistake.Construct) (read : Rules → Parse Node) :
    Except Refusal Node :=
  let rules := Expression.rules (lexed.tokens.length + 1) depthLimit
  match read rules lexed.tokens with
  | .error failure =>
    .error (match failure.cause with
      | .tooDeep => Fault.refusal ⟨.tooDeep, failure.token.start⟩
      | _ => lexed.blame rules construct failure)
  | .ok (node, _) =>
    if node.exceeds depthLimit then .error (Fault.refusal ⟨.treeTooDeep, ⟨1, 0⟩⟩) else .ok node

/-- The tree of a module. -/
def parseModule (text : List Char) : Except Refusal Node :=
  treeOf (lexModule text) .module fun r => Statement.module r (indentLimit + 2)

/-- Steps over line ends. -/
def skipNewlines : Nat → Parse Unit
  | 0 => return ()
  | rounds + 1 => do
    if ← accepts .newline then skipNewlines rounds else return ()

/-- The tree of one expression. -/
def parseExpression (text : List Char) : Except Refusal Node :=
  treeOf (lexAt true ⟨1, 0⟩ (unifyNewlines text)) .singleExpression fun r => do
    let first ← r.expression
    let node ←
      if ← seesSymbol "," then do
        pure (.form .tuple (← Expression.commaFrom Expression.endsExpressions r.expression r.rounds [first]))
      else pure first
    skipNewlines r.rounds
    expect .finish
    return node

end Localize.Syntax
