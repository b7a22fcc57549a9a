/-
  The grammar of statements and modules. A block is read by the rules of the level below; within a
  line the statements are simple ones.
-/
import Localize.Syntax.Grammar.Pattern

namespace Localize.Syntax.Statement

open Parse Expression

/-- Symbols that assign the result of an operation. -/
def assignmentOperators : List String :=
  ["+=", "-=", "*=", "@=", "/=", "%=", "&=", "|=", "^=", "<<=", ">>=", "**=", "//="]

/-! ## Simple statements -/

/-- The right-hand side of an assignment. -/
def rightSide (r : Rules) : Parse Node := do
  if ← seesWord "yield" then yielding r else expressions r

/-- The targets of an assignment and its value, which stands behind the last equals sign. -/
def assignedFrom (r : Rules) : Nat → List Node → Node → Parse Node
  | 0, _, _ => unexpected
  | rounds + 1, targets, node => do
    if ← seesSymbol "=" then
      if node.isStarTarget then
        skip
        let next ← rightSide r
        assignedFrom r rounds (node :: targets) next
      else unexpected
    else return if targets.isEmpty then .form .exprStmt [node]
      else .form .assign (targets.reverse ++ [node])

/-- An expression, or an assignment to it. -/
def expressionStmt (r : Rules) : Parse Node := do
  let isName := (← seesIdentifier) && (← lexemeBehind) == .symbol ":"
  let first ← rightSide r
  match ← lexeme with
  | .symbol ":" =>
    if first.isPlace then
      skip
      let note ← r.expression
      let value ← if ← acceptsSymbol "=" then some <$> rightSide r else pure none
      return .form (.annAssign isName) (first :: note :: value.toList)
    else unexpected
  | .symbol s =>
    if assignmentOperators.contains s then
      if first.isPlace then
        skip
        return .form (.augAssign s) [first, ← rightSide r]
      else unexpected
    else assignedFrom r r.rounds [] first
  | _ => assignedFrom r r.rounds [] first

/-- Tokens that end a simple statement. -/
def endsStatement (l : Lexeme) : Bool := l == .newline || l == .symbol ";"

/-- A name with dots in it. -/
def dottedFrom : Nat → String → Parse String
  | 0, name => return name
  | rounds + 1, name => do
    if ← acceptsSymbol "." then
      let next ← identifier
      dottedFrom rounds (name ++ "." ++ next)
    else return name

/-- A name with dots in it. -/
def dotted (r : Rules) : Parse String := do dottedFrom r.rounds (← identifier)

/-- The other name behind `as`, if there is one. -/
def asName? : Parse (Option String) := do
  if ← acceptsWord "as" then some <$> identifier else return none

/-- A module to import, with the name that it gets. -/
def importedModule (r : Rules) : Parse Node := do
  let name ← dotted r
  return leaf (.alias name (← asName?))

/-- A name to import from a module, with the name that it gets. -/
def importedName : Parse Node := do
  let name ← identifier
  return leaf (.alias name (← asName?))

/-- Items separated by commas, where no comma follows the last one. -/
def strictCommaFrom (item : Parse α) : Nat → List α → Parse (List α)
  | 0, read => return read.reverse
  | rounds + 1, read => do
    if ← acceptsSymbol "," then
      let next ← item
      strictCommaFrom item rounds (next :: read)
    else return read.reverse

/-- The dots in front of a module's name. -/
def dotsFrom : Nat → Nat → Parse Nat
  | 0, level => return level
  | rounds + 1, level => do
    if ← acceptsSymbol "." then dotsFrom rounds (level + 1)
    else if ← acceptsSymbol "..." then dotsFrom rounds (level + 3)
    else return level

/-- Names imported from a module. -/
def importFrom (r : Rules) : Parse Node := do
  let level ← dotsFrom r.rounds 0
  let module ← if level > 0 && (← seesWord "import") then pure none else some <$> dotted r
  word "import"
  let names ←
    if ← acceptsSymbol "*" then pure [leaf (.alias "*" none)]
    else if ← acceptsSymbol "(" then do
      let first ← importedName
      let names ← commaFrom (isSymbol ")") importedName r.rounds [first]
      symbol ")"
      pure names
    else do
      let first ← importedName
      strictCommaFrom importedName r.rounds [first]
  return .form (.importFrom module level) names

/-- What is deleted: places, also in lists and tuples. -/
def deleted (r : Rules) : Parse Node := do
  let target ← r.bitOr
  if target.isDeletable then return target else unexpected

/-- A statement without a block. -/
def simple (r : Rules) : Parse Node := do
  match ← lexeme with
  | .word "pass" => skip; return leaf .passStmt
  | .word "break" => skip; return leaf .breakStmt
  | .word "continue" => skip; return leaf .continueStmt
  | .word "return" =>
    skip
    if endsStatement (← lexeme) then return leaf .returnStmt
    else return .form .returnStmt [← expressions r]
  | .word "raise" =>
    skip
    if endsStatement (← lexeme) then return leaf .raise
    else
      let error ← r.expression
      if ← acceptsWord "from" then return .form .raise [error, ← r.expression]
      else return .form .raise [error]
  | .word "global" =>
    skip
    let first ← identifier
    return leaf (.global (← strictCommaFrom identifier r.rounds [first]))
  | .word "nonlocal" =>
    skip
    let first ← identifier
    return leaf (.nonlocal (← strictCommaFrom identifier r.rounds [first]))
  | .word "del" =>
    skip
    let first ← deleted r
    let targets ← commaFrom endsStatement (deleted r) r.rounds [first]
    if endsStatement (← lexeme) then return .form .delete targets else unexpected
  | .word "assert" =>
    skip
    let test ← r.expression
    if ← acceptsSymbol "," then return .form .assert [test, ← r.expression]
    else return .form .assert [test]
  | .word "import" =>
    skip
    let first ← importedModule r
    return .form .importStmt (← strictCommaFrom (importedModule r) r.rounds [first])
  | .word "from" => skip; importFrom r
  | _ => expressionStmt r

/-- Simple statements up to the end of the line, reversed. -/
def lineFrom (r : Rules) : Nat → List Node → Parse (List Node)
  | 0, _ => unexpected
  | rounds + 1, read => do
    let node ← simple r
    if ← accepts .newline then return node :: read
    else
      symbol ";"
      if ← accepts .newline then return node :: read else lineFrom r rounds (node :: read)

/-! ## Compound statements -/

/-- Reads statements up to the end of their block. -/
abbrev Statements := Parse (List Node)

/-- The block behind a colon: the rest of the line, or indented lines. -/
def block (r : Rules) (inner : Statements) : Parse (List Node) := do
  symbol ":"
  if ← accepts .newline then
    expect .indent
    let body ← inner
    expect .dedent
    return body
  else return (← lineFrom r r.rounds []).reverse

/-- The block behind `else`, if there is one. -/
def elseBlock (r : Rules) (inner : Statements) : Parse (List Node) := do
  if ← acceptsWord "else" then block r inner else return []

/-- The branches of a condition, reversed: tests with their blocks. -/
def branchesFrom (r : Rules) (inner : Statements) :
    Nat → List (Node × List Node) → Parse (List (Node × List Node))
  | 0, read => return read
  | rounds + 1, read => do
    if ← acceptsWord "elif" then
      let test ← named r
      let body ← block r inner
      branchesFrom r inner rounds ((test, body) :: read)
    else return read

/-- A condition; each further branch stands alone in the alternative of the one before. -/
def ifStmt (r : Rules) (inner : Statements) : Parse Node := do
  word "if"
  let test ← named r
  let body ← block r inner
  let others ← branchesFrom r inner r.rounds []
  let alternative ← elseBlock r inner
  let node (test : Node) (body alternative : List Node) : Node :=
    .form (.ifStmt body.length) (test :: (body ++ alternative))
  let alternative := others.foldl (fun alternative (test, body) => [node test body alternative]) alternative
  return node test body alternative

def whileStmt (r : Rules) (inner : Statements) : Parse Node := do
  word "while"
  let test ← named r
  let body ← block r inner
  let alternative ← elseBlock r inner
  return .form (.whileStmt body.length) (test :: (body ++ alternative))

def forStmt (r : Rules) (inner : Statements) (isAsync : Bool) : Parse Node := do
  word "for"
  let target ← loopTargets r
  word "in"
  let source ← expressions r
  let body ← block r inner
  let alternative ← elseBlock r inner
  return .form (.forStmt isAsync body.length) (target :: source :: (body ++ alternative))

/-- A context, with the target that it is stored in. -/
def withItem (r : Rules) : Parse Node := do
  let context ← r.expression
  if ← acceptsWord "as" then
    let target ← starTarget r.bitOr
    match ← lexeme with
    | .symbol s =>
      if [",", ")", ":"].contains s then return .form .withItem [context, target] else unexpected
    | _ => unexpected
  else return .form .withItem [context]

/-- Contexts between parentheses, up to the colon, which stays. -/
def parenthesizedItems (r : Rules) : Parse (List Node) := do
  symbol "("
  let first ← withItem r
  let items ← commaFrom (isSymbol ")") (withItem r) r.rounds [first]
  symbol ")"
  if ← seesSymbol ":" then return items else unexpected

/-- Contexts without parentheses. -/
def plainItems (r : Rules) : Parse (List Node) := do
  let first ← withItem r
  strictCommaFrom (withItem r) r.rounds [first]

def withStmt (r : Rules) (inner : Statements) (isAsync : Bool) : Parse Node := do
  word "with"
  let items ← if ← seesSymbol "(" then orElse (parenthesizedItems r) (plainItems r) else plainItems r
  let body ← block r inner
  return .form (.withStmt isAsync items.length) (items ++ body)

/-- A handler; `starred` says whether the ones before it have a star, if there are any. -/
def handler (r : Rules) (inner : Statements) (starred : Option Bool) : Parse (Bool × Node) := do
  word "except"
  let isStarred ← acceptsSymbol "*"
  if starred.any (· != isStarred) then unexpected
  else if !isStarred && (← seesSymbol ":") then
    let body ← block r inner
    return (false, .form (.handler false none) body)
  else
    let type ← r.expression
    let name ← asName?
    let body ← block r inner
    return (isStarred, .form (.handler true name) (type :: body))

/-- The handlers of a statement. -/
def handlersFrom (r : Rules) (inner : Statements) :
    Nat → Option Bool → List Node → Parse (Option Bool × List Node)
  | 0, starred, read => return (starred, read.reverse)
  | rounds + 1, starred, read => do
    if ← seesWord "except" then
      let (isStarred, node) ← handler r inner starred
      handlersFrom r inner rounds (some isStarred) (node :: read)
    else return (starred, read.reverse)

def tryStmt (r : Rules) (inner : Statements) : Parse Node := do
  word "try"
  let body ← block r inner
  let (starred, handlers) ← handlersFrom r inner r.rounds none []
  let alternative ← if handlers.isEmpty then pure [] else elseBlock r inner
  let kind := Form.tryStmt (starred.getD false) body.length handlers.length alternative.length
  if ← acceptsWord "finally" then
    let last ← block r inner
    return .form kind (body ++ handlers ++ alternative ++ last)
  else if handlers.isEmpty then unexpected
  else return .form kind (body ++ handlers ++ alternative)

/-- A case of a match statement. -/
def matchCase (r : Rules) (inner : Statements) : Parse Node := do
  word "case"
  let pattern ← Pattern.ofCase r
  let guard ← if ← acceptsWord "if" then some <$> named r else pure none
  let body ← block r inner
  return .form (.matchCase guard.isSome) (pattern :: (guard.toList ++ body))

/-- The cases of a match statement, up to the end of its block. -/
def casesFrom (r : Rules) (inner : Statements) : Nat → List Node → Parse (List Node)
  | 0, read => return read.reverse
  | rounds + 1, read => do
    if ← accepts .dedent then return read.reverse
    else
      let node ← matchCase r inner
      casesFrom r inner rounds (node :: read)

/-- The subject of a match statement, up to the end of its line. -/
def matchSubject (r : Rules) : Parse Node := do
  word "match"
  let starred ← seesSymbol "*"
  let first ← element r
  let subject ←
    if ← seesSymbol "," then do
      pure (.form .tuple (← commaFrom (isSymbol ":") (element r) r.rounds [first]))
    else if starred then unexpected
    else pure first
  symbol ":"
  expect .newline
  return subject

/-- A match statement whose subject is read. -/
def matchStmt (r : Rules) (inner : Statements) (subject : Node) : Parse Node := do
  expect .indent
  let first ← matchCase r inner
  return .form .matchStmt (subject :: (← casesFrom r inner r.rounds [first]))

/-- A statement that may begin with the word `match`: the line decides, since no other statement
ends its line with a colon. -/
def matchOrSimple (r : Rules) (inner : Statements) : Parse (List Node) := do
  let attempt : Parse (Node ⊕ List Node) :=
    orElse (Sum.inl <$> matchSubject r) (Sum.inr <$> lineFrom r r.rounds [])
  match ← attempt with
  | .inl subject => return [← matchStmt r inner subject]
  | .inr nodes => return nodes

def classDef (r : Rules) (inner : Statements) (decorators : List Node) : Parse Node := do
  word "class"
  let name ← identifier
  let (bases, keywords) ←
    if ← seesSymbol "(" then do
      let (bases, keywords, _) ← arguments r false
      pure (bases, keywords)
    else pure ([], [])
  let body ← block r inner
  return .form (.classDef name bases.length keywords.length body.length)
    (bases ++ keywords ++ body ++ decorators)

def functionDef (r : Rules) (inner : Statements) (isAsync : Bool) (decorators : List Node) :
    Parse Node := do
  word "def"
  let name ← identifier
  symbol "("
  let ps ← parameters r true ")"
  symbol ")"
  let returns ← if ← acceptsSymbol "->" then some <$> r.expression else pure none
  let body ← block r inner
  return .form (.functionDef isAsync name body.length decorators.length)
    (ps :: (body ++ decorators ++ returns.toList))

/-- Decorators, each on a line of its own. -/
def decoratorsFrom (r : Rules) : Nat → List Node → Parse (List Node)
  | 0, read => return read.reverse
  | rounds + 1, read => do
    if ← acceptsSymbol "@" then
      let node ← named r
      expect .newline
      decoratorsFrom r rounds (node :: read)
    else return read.reverse

/-- A class or a function behind decorators. -/
def decorated (r : Rules) (inner : Statements) : Parse Node := do
  let decorators ← decoratorsFrom r r.rounds []
  if ← seesWord "class" then classDef r inner decorators
  else
    let isAsync ← acceptsWord "async"
    functionDef r inner isAsync decorators

/-- The statements of a line, reversed, or one statement with its blocks. -/
def statement (r : Rules) (inner : Statements) : Parse (List Node) := do
  match ← lexeme with
  | .symbol "@" => return [← decorated r inner]
  | .word "if" => return [← ifStmt r inner]
  | .word "while" => return [← whileStmt r inner]
  | .word "for" => return [← forStmt r inner false]
  | .word "with" => return [← withStmt r inner false]
  | .word "try" => return [← tryStmt r inner]
  | .word "class" => return [← classDef r inner []]
  | .word "def" => return [← functionDef r inner false []]
  | .word "async" =>
    skip
    match ← lexeme with
    | .word "for" => return [← forStmt r inner true]
    | .word "with" => return [← withStmt r inner true]
    | _ => return [← functionDef r inner true []]
  | .word "match" => matchOrSimple r inner
  | _ => lineFrom r r.rounds []

/-- Statements up to a token that ends a block, at least one. -/
def statementsFrom (r : Rules) (inner : Statements) : Nat → List Node → Parse (List Node)
  | 0, read => return read.reverse
  | rounds + 1, read => do
    let nodes ← statement r inner
    let read := nodes ++ read
    match ← lexeme with
    | .dedent => return read.reverse
    | .finish => return read.reverse
    | _ => statementsFrom r inner rounds read

/-- Statements whose blocks are nested at most a number of levels. -/
def statements (r : Rules) : Nat → Parse (List Node)
  | 0 => fail .tooDeep
  | levels + 1 => statementsFrom r (statements r levels) r.rounds []

/-- All statements of a module. -/
def module (r : Rules) (levels : Nat) : Parse Node := do
  if ← sees .finish then return leaf .module
  else
    let body ← statements r levels
    expect .finish
    return .form .module body

end Localize.Syntax.Statement
