/-
  The grammar of expressions. The rules of one level read nested constructs by the rules of the
  level below, so that the number of levels bounds the nesting; within a level the rules follow the
  binding strength of the operators.
-/
import Localize.Syntax.Grammar.Basic
import Localize.Syntax.Literal
import Localize.Text.Compatibility

namespace Localize.Syntax

open Parse

/-- How nested constructs are read, and how many rounds a loop may run. -/
structure Rules where
  rounds : Nat
  expression : Parse Node
  disjunction : Parse Node
  inversion : Parse Node
  bitOr : Parse Node
  factor : Parse Node

namespace Expression

/-- The composed form of an identifier. -/
def composed (w : String) : String := String.ofList (Text.compatibilityForm w.toList)

/-- Reads an identifier. -/
def identifier : Parse String := do
  match ← lexeme with
  | .word w => if isKeyword w then unexpected else skip; return composed w
  | _ => unexpected

/-- Whether the next token is an identifier. -/
def seesIdentifier : Parse Bool := do
  match ← lexeme with
  | .word w => return !isKeyword w
  | _ => return false

/-- A form without children. -/
def leaf (kind : Form) : Node := .form kind []

/-! ## Loops -/

/-- Operands joined by operators of one strength, from the left. -/
def chainFrom (build? : Lexeme → Option (Node → Node → Node)) (operand : Parse Node) :
    Nat → Node → Parse Node
  | 0, left => return left
  | rounds + 1, left => do
    match build? (← lexeme) with
    | none => return left
    | some build => do
      skip
      let right ← operand
      chainFrom build? operand rounds (build left right)

/-- Operands joined by a word; one operand alone stands for itself. -/
def joinedFrom (w : String) (operand : Parse Node) : Nat → List Node → Parse (List Node)
  | 0, read => return read.reverse
  | rounds + 1, read => do
    if ← acceptsWord w then
      let next ← operand
      joinedFrom w operand rounds (next :: read)
    else return read.reverse

/-- Items separated by commas, behind the first ones, up to a token that begins no item. A comma
may follow the last one. -/
def commaFrom (ends : Lexeme → Bool) (item : Parse α) : Nat → List α → Parse (List α)
  | 0, read => return read.reverse
  | rounds + 1, read => do
    if ← acceptsSymbol "," then
      if ends (← lexeme) then return read.reverse
      else
        let next ← item
        commaFrom ends item rounds (next :: read)
    else return read.reverse

/-- Whether a token is the given symbol. -/
def isSymbol (s : String) (l : Lexeme) : Bool := l == .symbol s

/-! ## Operators -/

/-- Builds a binary operation; a plus has a constructor of its own. -/
def binary (operator : String) (left right : Node) : Node :=
  if operator = "+" then .sum left right else .form (.binOp operator) [left, right]

/-- The binary operators of one strength. -/
def operators (symbols : List String) (l : Lexeme) : Option (Node → Node → Node) :=
  match l with
  | .symbol s => if symbols.contains s then some (binary s) else none
  | _ => none

/-- A chain of binary operators of one strength. -/
def chain (rounds : Nat) (symbols : List String) (operand : Parse Node) : Parse Node := do
  chainFrom (operators symbols) operand rounds (← operand)

/-- The comparison at the next token, if it is one, stepped over. -/
def comparison? : Parse (Option String) := do
  match ← lexeme with
  | .symbol s =>
    if ["==", "!=", "<=", "<", ">=", ">"].contains s then skip; return some s else return none
  | .word "in" => skip; return some "in"
  | .word "is" =>
    skip
    if ← acceptsWord "not" then return some "is not" else return some "is"
  | .word "not" =>
    skip
    word "in"
    return some "not in"
  | _ => return none

/-- Comparisons behind a first operand: their operators and right operands, reversed. -/
def comparisonsFrom (operand : Parse Node) :
    Nat → List String → List Node → Parse (List String × List Node)
  | 0, operators, operands => return (operators.reverse, operands.reverse)
  | rounds + 1, operators, operands => do
    match ← comparison? with
    | none => return (operators.reverse, operands.reverse)
    | some operator => do
      let next ← operand
      comparisonsFrom operand rounds (operator :: operators) (next :: operands)

/-! ## Parts shared by expressions and statements -/

/-- An expression, or a name with the value that it gets. -/
def named (r : Rules) : Parse Node := do
  if (← seesIdentifier) && (← lexemeBehind) == .symbol ":=" then
    let id ← identifier
    skip
    return .form .namedExpr [.name id, ← r.expression]
  else r.expression

/-- An expression, or an operand with a star in front. -/
def starOr (inner operand : Parse Node) : Parse Node := do
  if ← acceptsSymbol "*" then return .starred (← operand) else inner

/-- An element of a list, a set or a tuple between brackets. -/
def element (r : Rules) : Parse Node := starOr (named r) r.bitOr

/-- Tokens that end a list of expressions without brackets. -/
def endsExpressions (l : Lexeme) : Bool :=
  match l with
  | .newline | .finish => true
  | .symbol s => [")", "]", "\x7d", "=", ":", ";"].contains s || s.endsWith "=" && s.length > 1 && s != "=="
  | .word "in" => true
  | _ => false

/-- One expression, or a tuple of several, each of them starred or not. -/
def expressions (r : Rules) : Parse Node := do
  let item := starOr r.expression r.bitOr
  let first ← item
  if ← seesSymbol "," then
    return .form .tuple (← commaFrom endsExpressions item r.rounds [first])
  else return first

/-- A yield, whose keyword comes next. -/
def yielding (r : Rules) : Parse Node := do
  word "yield"
  if ← acceptsWord "from" then return .form .yieldFrom [← r.expression]
  else if endsExpressions (← lexeme) then return leaf .yield
  else return .form .yield [← expressions r]

/-- A target of an assignment, starred or not. -/
def starTarget (operand : Parse Node) : Parse Node := do
  let target ← starOr operand operand
  if target.isStarTarget then return target else unexpected

/-- The targets of a loop, up to the keyword behind them. -/
def loopTargets (r : Rules) : Parse Node := do
  let first ← starTarget r.bitOr
  if ← seesSymbol "," then
    return .form .tuple (← commaFrom (· == .word "in") (starTarget r.bitOr) r.rounds [first])
  else return first

/-! ## Comprehensions -/

/-- Whether a comprehension goes on at the next token. -/
def seesLoop : Parse Bool := return (← seesWord "for") || (← seesWord "async")

/-- The conditions of a loop. -/
def conditionsFrom (r : Rules) : Nat → List Node → Parse (List Node)
  | 0, read => return read.reverse
  | rounds + 1, read => do
    if ← acceptsWord "if" then
      let next ← r.disjunction
      conditionsFrom r rounds (next :: read)
    else return read.reverse

/-- The loops of a comprehension. -/
def loopsFrom (r : Rules) : Nat → List Node → Parse (List Node)
  | 0, read => return read.reverse
  | rounds + 1, read => do
    if ← seesLoop then
      let isAsync ← acceptsWord "async"
      word "for"
      let target ← loopTargets r
      word "in"
      let source ← r.disjunction
      let conditions ← conditionsFrom r r.rounds []
      loopsFrom r rounds (.form (.comprehension isAsync) (target :: source :: conditions) :: read)
    else return read.reverse

/-- The loops of a comprehension, of which there is one at least. -/
def loops (r : Rules) : Parse (List Node) := loopsFrom r r.rounds []

/-! ## Parameters -/

/-- The parameters read so far, each list reversed. A slash moves the positional ones apart. -/
structure Parameters where
  positional : List Node := []
  normal : List Node := []
  defaults : List Node := []
  slash : Bool := false
  star : Bool := false
  rest : Option Node := none
  keywordOnly : List (Node × Option Node) := []
  keywordRest : Option Node := none

/-- The node of finished parameters. -/
def Parameters.node (p : Parameters) : Node :=
  let keywordOnly := p.keywordOnly.reverse
  .form (.parameters p.positional.length p.normal.length p.rest.isSome keywordOnly.length
      (keywordOnly.map (·.2.isSome)) p.keywordRest.isSome)
    (p.positional.reverse ++ p.normal.reverse ++ p.rest.toList ++ keywordOnly.map (·.1) ++
      keywordOnly.filterMap (·.2) ++ p.keywordRest.toList ++ p.defaults.reverse)

/-- A parameter with the note on its type, which stands behind a colon. -/
def parameter (note : Option (Parse Node)) : Parse Node := do
  let id ← identifier
  match note with
  | some read =>
    if ← acceptsSymbol ":" then
      let note ← read
      return .form (.parameter id) [note]
    else return leaf (.parameter id)
  | none => return leaf (.parameter id)

/-- A default, if one follows. -/
def default? (r : Rules) : Parse (Option Node) := do
  if ← acceptsSymbol "=" then return some (← r.expression) else return none

/-- Parameters up to the symbol that closes them. Behind a parameter with a default the positional
ones need one; nothing follows the map of the rest; a bare star needs a parameter behind it. -/
def parametersFrom (r : Rules) (annotated : Bool) (close : String) :
    Nat → Parameters → Parse Parameters
  | 0, p => return p
  | rounds + 1, p => do
    let finished (p : Parameters) : Parse Parameters := do
      if p.star && p.rest.isNone && p.keywordOnly.isEmpty then unexpected else return p
    let goOn (p : Parameters) : Parse Parameters := do
      if ← acceptsSymbol "," then parametersFrom r annotated close rounds p
      else if ← seesSymbol close then finished p
      else unexpected
    let note := if annotated then some r.expression else none
    if ← seesSymbol close then finished p
    else if p.keywordRest.isSome then unexpected
    else if ← acceptsSymbol "**" then
      if p.star && p.rest.isNone && p.keywordOnly.isEmpty then unexpected
      else goOn { p with keywordRest := some (← parameter note) }
    else if ← seesSymbol "/" then
      if p.slash || p.star || p.normal.isEmpty then unexpected
      else
        skip
        goOn { p with slash := true, positional := p.normal, normal := [] }
    else if ← seesSymbol "*" then
      if p.star then unexpected
      else
        skip
        if ← seesSymbol "," then goOn { p with star := true }
        else
          let note := if annotated then some (starOr r.expression r.bitOr) else none
          goOn { p with star := true, rest := some (← parameter note) }
    else
      let node ← parameter note
      let default ← default? r
      if p.star then goOn { p with keywordOnly := (node, default) :: p.keywordOnly }
      else
        match default with
        | some value => goOn { p with normal := node :: p.normal, defaults := value :: p.defaults }
        | none => if p.defaults.isEmpty then goOn { p with normal := node :: p.normal } else unexpected

/-- Parameters up to the symbol that closes them, which stays. -/
def parameters (r : Rules) (annotated : Bool) (close : String) : Parse Node := do
  return (← parametersFrom r annotated close r.rounds {}).node

/-! ## Arguments -/

/-- The arguments read so far, reversed, with whether a keyword and a double star came up. -/
structure Arguments where
  positional : List Node := []
  keywords : List Node := []
  named : Bool := false
  doubleStarred : Bool := false

/-- Arguments up to the closing parenthesis. Positional ones come before named ones, and starred
ones before double-starred ones; a generator without parentheses stands alone. -/
def argumentsFrom (r : Rules) (generator : Bool) : Nat → Arguments → Parse Arguments
  | 0, a => return a
  | rounds + 1, a => do
    let goOn (a : Arguments) : Parse Arguments := do
      if ← acceptsSymbol "," then argumentsFrom r generator rounds a
      else if ← seesSymbol ")" then return a
      else unexpected
    if ← seesSymbol ")" then return a
    else if ← acceptsSymbol "**" then
      let value ← r.expression
      goOn { a with keywords := .form (.keyword none) [value] :: a.keywords, doubleStarred := true }
    else if ← seesSymbol "*" then
      if a.doubleStarred then unexpected
      else
        skip
        let value ← r.expression
        goOn { a with positional := .starred value :: a.positional }
    else if (← seesIdentifier) && (← lexemeBehind) == .symbol "=" then
      let id ← identifier
      skip
      let value ← r.expression
      goOn { a with keywords := .form (.keyword (some id)) [value] :: a.keywords, named := true }
    else if a.named || a.doubleStarred then unexpected
    else
      let value ← named r
      if ← seesLoop then
        if generator && a.positional.isEmpty then
          let node : Node := .form .generator (value :: (← loops r))
          if ← seesSymbol ")" then return { a with positional := [node] } else unexpected
        else unexpected
      else goOn { a with positional := value :: a.positional }

/-- Arguments between parentheses, whose first one comes next, and the place behind them. -/
def arguments (r : Rules) (generator : Bool) : Parse (List Node × List Node × Point) := do
  symbol "("
  let a ← argumentsFrom r generator r.rounds {}
  let stop := (← current).stop
  symbol ")"
  return (a.positional.reverse, a.keywords.reverse, stop)

/-! ## Subscripts -/

/-- An expression that ends in front of a colon or behind it, if there is one. -/
def bound? (r : Rules) : Parse (Option Node) := do
  match ← lexeme with
  | .symbol ":" => return none
  | .symbol "," => return none
  | .symbol "]" => return none
  | _ => return some (← r.expression)

/-- An index or a slice. -/
def slice (r : Rules) : Parse Node := do
  let isNamed := (← seesIdentifier) && (← lexemeBehind) == .symbol ":="
  let lower ← if isNamed then some <$> named r else bound? r
  if ← seesSymbol ":" then
    if isNamed then unexpected
    else
      skip
      let upper ← bound? r
      let step ← if ← acceptsSymbol ":" then bound? r else pure none
      return .form (.slice lower.isSome upper.isSome step.isSome)
        (lower.toList ++ upper.toList ++ step.toList)
  else
    match lower with
    | some index => return index
    | none => unexpected

/-- What stands between the brackets of a subscript: a slice, or a tuple of slices and starred
expressions. -/
def slices (r : Rules) : Parse Node := do
  let item := starOr (slice r) r.expression
  let starred ← seesSymbol "*"
  let first ← item
  if ← seesSymbol "," then
    return .form .tuple (← commaFrom (isSymbol "]") item r.rounds [first])
  else return if starred then .form .tuple [first] else first

/-! ## Atoms -/

/-- What stands between parentheses behind the opening one: a tuple, a yield, a generator or a
single expression. -/
def parenthesized (r : Rules) : Parse Node := do
  if ← acceptsSymbol ")" then return leaf .tuple
  else if ← seesWord "yield" then
    let node ← yielding r
    symbol ")"
    return node
  else
    let starred ← seesSymbol "*"
    let first ← element r
    if ← seesSymbol "," then
      let items ← commaFrom (isSymbol ")") (element r) r.rounds [first]
      symbol ")"
      return .form .tuple items
    else if starred then unexpected
    else if ← seesLoop then
      let clauses ← loops r
      symbol ")"
      return .form .generator (first :: clauses)
    else
      symbol ")"
      return first

/-- What stands between square brackets behind the opening one. -/
def bracketed (r : Rules) : Parse Node := do
  if ← acceptsSymbol "]" then return leaf .list
  else
    let starred ← seesSymbol "*"
    let first ← element r
    if !starred && (← seesLoop) then
      let clauses ← loops r
      symbol "]"
      return .form .listComp (first :: clauses)
    else
      let items ← commaFrom (isSymbol "]") (element r) r.rounds [first]
      symbol "]"
      return .form .list items

/-- An entry of a dictionary: a key and a value, or a map of entries behind a double star. -/
def entry (r : Rules) : Parse (Option Node × Node) := do
  if ← acceptsSymbol "**" then return (none, ← r.bitOr)
  else
    let key ← r.expression
    symbol ":"
    return (some key, ← r.expression)

/-- The node of a dictionary: all keys, then all values. -/
def dictOf (entries : List (Option Node × Node)) : Node :=
  .form (.dict (entries.map (·.1.isSome))) (entries.filterMap (·.1) ++ entries.map (·.2))

/-- What stands between braces behind the opening one: a dictionary or a set. -/
def braced (r : Rules) : Parse Node := do
  let close := "\x7d"
  if ← acceptsSymbol close then return dictOf []
  else if ← seesSymbol "**" then
    let first ← entry r
    let entries ← commaFrom (isSymbol close) (entry r) r.rounds [first]
    symbol close
    return dictOf entries
  else
    let starred ← seesSymbol "*"
    let isNamed := (← seesIdentifier) && (← lexemeBehind) == .symbol ":="
    let first ← element r
    if !starred && !isNamed && (← seesSymbol ":") then
      skip
      let value ← r.expression
      if ← seesLoop then
        let clauses ← loops r
        symbol close
        return .form .dictComp (first :: value :: clauses)
      else
        let entries ← commaFrom (isSymbol close) (entry r) r.rounds [(some first, value)]
        symbol close
        return dictOf entries
    else if !starred && (← seesLoop) then
      let clauses ← loops r
      symbol close
      return .form .setComp (first :: clauses)
    else
      let items ← commaFrom (isSymbol close) (element r) r.rounds [first]
      symbol close
      return .form .set items

/-- Reads the expression of a replacement field, as if it stood in parentheses. Where its own tokens
end in a fault, that is the cause; its column is counted from the opening brace. -/
def fieldExpression (r : Rules) (start : Point) (cs : List Char) : Parse Node := fun tokens =>
  let opening : Point := ⟨start.line, start.byte - 1⟩
  let inner := lexAt false opening ('(' :: cs ++ [')'])
  match r.expression inner.tokens, inner.fault with
  | .ok (node, [⟨.finish, _, _⟩]), _ => .ok (node, tokens)
  | .error ⟨_, .tooDeep⟩, _ => fail .tooDeep tokens
  | _, some fault =>
    let origin := if fault.point.line = opening.line then opening else ⟨fault.point.line, 0⟩
    .error ⟨⟨.broken, origin, fault.point⟩, fault.cause⟩
  | _, none => unexpected tokens

/-- The nodes of a formatted literal: adjacent characters are one constant, and a field with an
equals sign shows its text first. `pending` holds the characters before the next field, reversed. -/
structure Joined where
  nodes : List Node := []
  pending : List Char := []

/-- Ends a constant. -/
def Joined.flush (j : Joined) : Joined :=
  if j.pending.isEmpty then j
  else { nodes := .text (String.ofList j.pending.reverse) :: j.nodes, pending := [] }

/-- Adds characters. -/
def Joined.add (j : Joined) (cs : List Char) : Joined := { j with pending := cs.reverse ++ j.pending }

/-- The finished parts. -/
def Joined.parts (j : Joined) : List Node := j.flush.nodes.reverse

/-- The characters of a piece of a literal. -/
def pieceChars (raw : Bool) (cs : List Char) : Parse (List Char) :=
  if raw then return cs
  else match unescape cs with
    | some cs => return cs
    | none => unexpected

mutual

/-- Adds the nodes of a piece. -/
def addPiece (r : Rules) (raw : Bool) (j : Joined) : Piece → Parse Joined
  | .chars cs => return j.add (← pieceChars raw cs)
  | .field expression start shown conversion format => do
    let value ← fieldExpression r start expression
    let j := j.add (shown.getD [])
    let j := j.flush
    let formatNodes ← match format with
      | none => pure []
      | some pieces => do
        let inner ← addPieces r raw {} pieces
        pure [.joined inner.parts]
    return { j with nodes := .form (.field conversion) (value :: formatNodes) :: j.nodes }

/-- Adds the nodes of pieces. -/
def addPieces (r : Rules) (raw : Bool) (j : Joined) : List Piece → Parse Joined
  | [] => return j
  | piece :: rest => do addPieces r raw (← addPiece r raw j piece) rest

end

/-- The literals that follow one another. -/
def quotationsFrom : Nat → List Quotation → Parse (List Quotation)
  | 0, read => return read.reverse
  | rounds + 1, read => do
    match ← current with
    | ⟨.quotation text, start, _⟩ =>
      skip
      quotationsFrom rounds (Quotation.of start text :: read)
    | _ => return read.reverse

/-- Adds a literal to those before it. -/
def addQuotation (r : Rules) (j : Joined) (q : Quotation) : Parse Joined :=
  if q.formatted then
    match q.pieces with
    | some pieces => addPieces r q.raw j pieces
    | none => unexpected
  else return j.add (← pieceChars q.raw q.body)

/-- Adjacent literals are one: bytes, a string constant, or a formatted string. -/
def strings (r : Rules) : Parse Node := do
  let qs ← quotationsFrom r.rounds []
  if qs.any (·.bytes) then
    if qs.all fun q => q.bytes && (if q.raw then q.body.all (·.toNat < 128) else isBytesBody q.body) then
      return leaf (.constant ("b" ++ String.ofList (qs.flatMap (·.body))))
    else unexpected
  else
    let j ← qs.foldlM (addQuotation r) {}
    if qs.any (·.formatted) then return .joined j.parts
    else return .text (String.ofList j.pending.reverse)

/-- The most digits of a decimal integer. -/
def integerDigitLimit : Nat := 4300

/-- Whether a number has a text that can be converted. The limit does not hold for what begins with
a zero, which is zero itself or no integer. -/
def isConvertible (text : String) : Bool :=
  let ds := text.toList.filter (· ≠ '_')
  !ds.all Char.isDigit || ds.head? = some '0' || ds.length ≤ integerDigitLimit

/-- An atom. -/
def atom (r : Rules) : Parse Node := do
  match ← lexeme with
  | .word w =>
    if ["None", "True", "False"].contains w then
      skip
      return leaf (.constant w)
    else return .name (← identifier)
  | .number text =>
    if isConvertible text then
      skip
      return leaf (.constant text)
    else unexpected
  | .quotation _ => strings r
  | .symbol "(" => skip; parenthesized r
  | .symbol "[" => skip; bracketed r
  | .symbol "\x7b" => skip; braced r
  | .symbol "..." => skip; return leaf (.constant "...")
  | _ => unexpected

/-- Attributes, calls and subscripts behind an atom that began at `start`. -/
def suffixesFrom (r : Rules) (start : Point) : Nat → Node → Parse Node
  | 0, node => return node
  | rounds + 1, node => do
    match ← lexeme with
    | .symbol "." =>
      skip
      let id ← identifier
      suffixesFrom r start rounds (.form (.attribute id) [node])
    | .symbol "(" =>
      let (positional, keywords, stop) ← arguments r true
      suffixesFrom r start rounds (.call node positional keywords ⟨start, stop⟩)
    | .symbol "[" =>
      skip
      let index ← slices r
      symbol "]"
      suffixesFrom r start rounds (.form .subscript [node, index])
    | _ => return node

/-- An atom with what is applied to it. -/
def primary (r : Rules) : Parse Node := do
  let start := (← current).start
  let first ← atom r
  suffixesFrom r start r.rounds first

/-- A primary, awaited or not. -/
def awaited (r : Rules) : Parse Node := do
  if ← acceptsWord "await" then return .form .await [← primary r] else primary r

/-! ## Operators by strength -/

/-- A power, which binds its exponent from the right. -/
def power (r : Rules) : Parse Node := do
  let base ← awaited r
  if ← acceptsSymbol "**" then return .form (.binOp "**") [base, ← r.factor] else return base

/-- A sign in front of an operand. -/
def factor (r : Rules) : Parse Node := do
  match ← lexeme with
  | .symbol s =>
    if ["+", "-", "~"].contains s then
      skip
      return .form (.unaryOp s) [← r.factor]
    else power r
  | _ => power r

def term (r : Rules) : Parse Node := chain r.rounds ["*", "/", "//", "%", "@"] (factor r)

def arithmetic (r : Rules) : Parse Node := chain r.rounds ["+", "-"] (term r)

def shift (r : Rules) : Parse Node := chain r.rounds ["<<", ">>"] (arithmetic r)

def bitAnd (r : Rules) : Parse Node := chain r.rounds ["&"] (shift r)

def bitXor (r : Rules) : Parse Node := chain r.rounds ["^"] (bitAnd r)

def bitOr (r : Rules) : Parse Node := chain r.rounds ["|"] (bitXor r)

/-- Operands compared with one another. -/
def comparison (r : Rules) : Parse Node := do
  let first ← bitOr r
  let (operators, operands) ← comparisonsFrom (bitOr r) r.rounds [] []
  if operators.isEmpty then return first else return .form (.compare operators) (first :: operands)

def inversion (r : Rules) : Parse Node := do
  if ← acceptsWord "not" then return .form (.unaryOp "not") [← r.inversion] else comparison r

/-- Operands joined by a word; one alone is no operation. -/
def wordChain (rounds : Nat) (w : String) (operand : Parse Node) : Parse Node := do
  let first ← operand
  match ← joinedFrom w operand rounds [first] with
  | [single] => return single
  | operands => return .form (.boolOp w) operands

def conjunction (r : Rules) : Parse Node := wordChain r.rounds "and" (inversion r)

def disjunction (r : Rules) : Parse Node := wordChain r.rounds "or" (conjunction r)

/-- A function without a name. -/
def lambda (r : Rules) : Parse Node := do
  word "lambda"
  let ps ← parameters r false ":"
  symbol ":"
  return .form .lambda [ps, ← r.expression]

/-- An expression: a choice by condition, a function without a name, or an operation. -/
def expression (r : Rules) : Parse Node := do
  if ← seesWord "lambda" then lambda r
  else
    let value ← disjunction r
    if ← acceptsWord "if" then
      let test ← disjunction r
      word "else"
      return .form .conditional [test, value, ← r.expression]
    else return value

/-- The rules of the level above. -/
def nextLevel (r : Rules) : Rules where
  rounds := r.rounds
  expression := expression r
  disjunction := disjunction r
  inversion := inversion r
  bitOr := bitOr r
  factor := factor r

/-- The rules with a number of levels. -/
def rules (rounds : Nat) : Nat → Rules
  | 0 => ⟨rounds, fail .tooDeep, fail .tooDeep, fail .tooDeep, fail .tooDeep, fail .tooDeep⟩
  | levels + 1 => nextLevel (rules rounds levels)

end Expression

end Localize.Syntax
