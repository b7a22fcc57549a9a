/-
  The fault to blame for a text that is not read. A search that follows the grammar shows the token
  at which the text cannot go on; a second one that suspects the known mistakes may find a better
  reason. Where the tokens themselves end in a fault further on, that fault may win over both.
-/
import Localize.Syntax.Grammar.Expression
import Localize.Syntax.Mistake.Grammar

namespace Localize.Syntax

open Parse Mistake

/-! ## Suspicions -/

/-- What some tokens are, if they are all that is read. -/
def readWhole (read : Parse Node) (tokens : List Token) : Option Node :=
  match read tokens with
  | .ok (node, []) => some node
  | _ => none

/-- Why string literals have no value together, if they have none. -/
def quotationsStop (r : Rules) (tokens : List Token) : Option Stop :=
  match Expression.strings r tokens with
  | .ok (_, []) => none
  | .error ⟨⟨.broken, origin, point⟩, cause⟩ => some (.inside origin ⟨cause, point⟩)
  | _ => some .mistake

/-- Words that were statements once. -/
def isOldWord : Node → Bool
  | .name id => ["print", "exec"].contains id
  | _ => false

mutual

/-- Whether something cannot be deleted. -/
def isUndeletable : Node → Bool
  | .form .tuple items => areUndeletable items
  | .form .list items => areUndeletable items
  | node => !node.isPlace

def areUndeletable : List Node → Bool
  | [] => false
  | n :: rest => isUndeletable n || areUndeletable rest

end

mutual

/-- Whether something cannot be assigned to. In a loop the words behind the target may have been
read as a comparison, of which the left operand counts. -/
def isUnassignable (loop : Bool) : Node → Bool
  | .form .tuple items => areUnassignable loop items
  | .form .list items => areUnassignable loop items
  | .starred inner => isUnassignable loop inner
  | .form (.compare operators) (left :: operands) =>
    !loop || operators.head? == some "in" && isUnassignable loop left || operands.isEmpty
  | node => !node.isPlace

def areUnassignable (loop : Bool) : List Node → Bool
  | [] => false
  | n :: rest => isUnassignable loop n || areUnassignable loop rest

end

/-- Whether there is more than one argument by position. -/
def areSeveralArguments (r : Rules) (tokens : List Token) : Bool :=
  match Expression.argumentsFrom r true r.rounds {} (tokens ++ [⟨.symbol ")", ⟨1, 0⟩, ⟨1, 0⟩⟩]) with
  | .ok (a, _) => a.positional.length > 1
  | .error _ => false

/-- Whether tokens give reason to suspect a mistake. -/
def suspects (r : Rules) (suspicion : Suspicion) (tokens : List Token) : Bool :=
  let holds (test : Node → Bool) : Bool := (readWhole (Expression.expressions r) tokens).all test
  match suspicion with
  | .sideBySide => !((readWhole r.disjunction tokens).any isOldWord)
  | .oldStatement => holds isOldWord
  | .badTarget => holds (isUnassignable false)
  | .badLoopTarget => holds (isUnassignable true)
  | .badDeletion => holds isUndeletable
  | .severalArguments => areSeveralArguments r tokens

/-! ## The verdict -/

/-- The fault of the tokens, if it wins over another fault. A bracket that is never closed does so
if the last token looked at is on a later line. -/
def Lexed.overruling? (lexed : Lexed) (last : Token) : Option Fault := do
  let fault ← lexed.fault
  if fault.cause.wins then some fault
  else
    let (bracket, point) ← lexed.unclosed
    if last.start.line > point.line then some ⟨.neverClosed bracket, point⟩ else none

/-- The lines that belong together with the line before: those that a backslash joins to it, and
those inside of a string. -/
def Lexed.continuing (lexed : Lexed) : List Nat :=
  lexed.joined ++ lexed.tokens.flatMap fun t =>
    match t.lexeme with
    | .quotation _ => List.range' (t.start.line + 1) (t.stop.line - t.start.line)
    | _ => []

/-- The first of the lines that belong together with a line. -/
def leadOf (continuing : List Nat) : Nat → Nat
  | 0 => 0
  | n + 1 => if continuing.contains (n + 1) then leadOf continuing n else n + 1

/-- Refuses a text for a fault that came up when tokens were read up to a line. On that line the
column is counted from the first of the lines that belong together. -/
def Lexed.refuse (lexed : Lexed) (readTo : Nat) (fault : Fault) : Refusal :=
  if fault.cause.wins || fault.point.line < readTo then fault.refusal
  else ⟨fault, ⟨leadOf lexed.continuing fault.point.line, 0⟩⟩

/-- How deep phrases lie in one another at most when a mistake is searched. -/
def searchDepth : Nat := 20000

/-- Refuses tokens of which a construct was not read; `failure` tells at which token that turned
out. -/
def Lexed.blame (lexed : Lexed) (rules : Rules) (construct : Construct) (failure : Failure) :
    Refusal :=
  let s : Setting Construct := {
    tokens := lexed.tokens.toArray
    grammar := Construct.phrase
    index := Construct.ctorIdx
    shared := Construct.isShared
    isNumber := Expression.isConvertible
    quotationsStop := quotationsStop rules
    suspects := suspects rules }
  let (outcome, first) := (s.follow searchDepth false 0 (.part construct) 0).run {}
  let tokenAt (i : Nat) : Token := s.tokens.getD i failure.token
  let token := match outcome with
    | .followed _ => failure.token
    | _ => tokenAt first.reached
  let search := if first.stop.isSome then first
    else ((s.follow searchDepth true 0 (.part construct) 0).run { reached := first.reached }).2
  let last := tokenAt search.reached
  let overruled : Option Refusal := (lexed.overruling? last).map (lexed.refuse lexed.lastLine)
  let unlessOverruled (fault : Fault) : Refusal := overruled.getD (lexed.refuse last.stop.line fault)
  match search.stop with
  | some .broken => lexed.refuse lexed.lastLine (lexed.fault.getD ⟨.invalidSyntax, last.start⟩)
  | some .mistake => unlessOverruled ⟨.invalidSyntax, last.start⟩
  | some (.inside origin fault) => overruled.getD ⟨fault, origin⟩
  | some (.missingBlock construct line) => unlessOverruled ⟨.missingBlock construct line, last.start⟩
  | none =>
    match token.lexeme with
    | .indent => lexed.refuse last.stop.line ⟨.unexpectedIndent, last.start⟩
    | .dedent => lexed.refuse last.stop.line ⟨.unexpectedUnindent, last.start⟩
    | .finish => unlessOverruled ⟨.invalidSyntax, ⟨token.start.line, 0⟩⟩
    | _ => unlessOverruled ⟨.invalidSyntax, token.start⟩

end Localize.Syntax
