/-
  The grammar of patterns, the left-hand sides of a match statement. Like expressions, nested
  patterns are read by the rules of the level below.
-/
import Localize.Syntax.Grammar.Expression

namespace Localize.Syntax.Pattern

open Parse Expression

/-- Whether a number is written with an imaginary mark. -/
def isImaginary (text : String) : Bool := text.endsWith "j" || text.endsWith "J"

/-- A number, with a sign in front or not. -/
def signedNumber : Parse (Node × String) := do
  let negative ← acceptsSymbol "-"
  match ← lexeme with
  | .number text =>
    if isConvertible text then
      skip
      let node := leaf (.constant text)
      return (if negative then .form (.unaryOp "-") [node] else node, text)
    else unexpected
  | _ => unexpected

/-- A number, or a sum or difference of a real and an imaginary one. -/
def number : Parse Node := do
  let (left, text) ← signedNumber
  match ← lexeme with
  | .symbol s =>
    if s = "+" || s = "-" then
      skip
      match ← lexeme with
      | .number right =>
        if isImaginary text || !isImaginary right then unexpected
        else
          skip
          return binary s left (leaf (.constant right))
      | _ => unexpected
    else return left
  | _ => return left

/-- Attributes behind a name. -/
def attributesFrom : Nat → Node → Parse Node
  | 0, node => return node
  | rounds + 1, node => do
    if ← acceptsSymbol "." then
      let id ← identifier
      attributesFrom rounds (.form (.attribute id) [node])
    else return node

/-- The name that a pattern captures; an underscore captures nothing. -/
def capture : Parse (Option String) := do
  let id ← identifier
  return if id = "_" then none else some id

/-- The name that a map of the rest, or an alternative name, is given. -/
def namedCapture : Parse String := do
  if ← seesWord "_" then unexpected else identifier

/-- The key of an entry: a literal or an attribute. -/
def key (r : Rules) : Parse Node := do
  match ← lexeme with
  | .number _ => number
  | .symbol "-" => number
  | .quotation _ => strings r
  | .word w =>
    if ["None", "True", "False"].contains w then
      skip
      return leaf (.constant w)
    else
      let id ← identifier
      if ← seesSymbol "." then attributesFrom r.rounds (.name id) else unexpected
  | _ => unexpected

/-- Items of a sequence, with whether one of them has a star, up to the symbol behind them. -/
def starOrPattern (inner : Parse Node) : Parse Node := do
  if ← acceptsSymbol "*" then return leaf (.matchStar (← capture)) else inner

/-- Whether a pattern is a starred one. -/
def isStar : Node → Bool
  | .form (.matchStar _) _ => true
  | _ => false

/-- What can follow the items of a sequence without brackets. -/
def endsSequence (l : Lexeme) : Bool := l == .symbol ":" || l == .word "if"

/-- Entries of a mapping pattern, with the name for the rest. Nothing follows the rest. -/
def entriesFrom (r : Rules) (inner : Parse Node) :
    Nat → List (Node × Node) → Parse (List (Node × Node) × Option String)
  | 0, read => return (read.reverse, none)
  | rounds + 1, read => do
    if ← seesSymbol "\x7d" then return (read.reverse, none)
    else if ← acceptsSymbol "**" then
      let rest ← namedCapture
      let _ ← acceptsSymbol ","
      return (read.reverse, some rest)
    else
      let k ← key r
      symbol ":"
      let value ← inner
      if ← acceptsSymbol "," then entriesFrom r inner rounds ((k, value) :: read)
      else return (((k, value) :: read).reverse, none)

/-- Arguments of a class pattern: positional ones, then named ones. Behind positional ones an
underscore is one of them, so that it names none. -/
def argumentsFrom (inner : Parse Node) : Nat → List Node → List (String × Node) →
    Parse (List Node × List (String × Node))
  | 0, positional, named => return (positional.reverse, named.reverse)
  | rounds + 1, positional, named => do
    if ← seesSymbol ")" then return (positional.reverse, named.reverse)
    else
      let isNamed := (← seesIdentifier) && (← lexemeBehind) == .symbol "=" &&
        !((← seesWord "_") && !positional.isEmpty && named.isEmpty)
      if !isNamed && !named.isEmpty then unexpected
      else
        let (positional, named) ←
          if isNamed then do
            let id ← identifier
            skip
            pure (positional, (id, ← inner) :: named)
          else pure ((← inner) :: positional, named)
        if ← acceptsSymbol "," then argumentsFrom inner rounds positional named
        else if ← seesSymbol ")" then return (positional.reverse, named.reverse)
        else unexpected

/-- A pattern that begins with a name: a capture, a value, or a class with arguments. An underscore
is a pattern of its own, whatever follows it. -/
def ofName (r : Rules) (inner : Parse Node) : Parse Node := do
  if ← acceptsWord "_" then return leaf (.matchAs none)
  else
    let id ← identifier
    let isDotted ← seesSymbol "."
    let target ← attributesFrom r.rounds (.name id)
    if ← acceptsSymbol "(" then
      let (positional, named) ← argumentsFrom inner r.rounds [] []
      symbol ")"
      return .form (.matchClass positional.length (named.map (·.1)))
        (target :: (positional ++ named.map (·.2)))
    else if isDotted then return .form .matchValue [target]
    else if ← seesSymbol "=" then unexpected
    else return leaf (.matchAs (some id))

/-- A pattern without alternatives; `inner` reads nested patterns. -/
def closed (r : Rules) (inner : Parse Node) : Parse Node := do
  match ← lexeme with
  | .number _ => return .form .matchValue [← number]
  | .symbol "-" => return .form .matchValue [← number]
  | .quotation _ => return .form .matchValue [← strings r]
  | .word w =>
    if ["None", "True", "False"].contains w then
      skip
      return leaf (.matchSingleton w)
    else ofName r inner
  | .symbol "[" =>
    skip
    if ← acceptsSymbol "]" then return leaf .matchSequence
    else
      let first ← starOrPattern inner
      let items ← commaFrom (isSymbol "]") (starOrPattern inner) r.rounds [first]
      symbol "]"
      return .form .matchSequence items
  | .symbol "(" =>
    skip
    if ← acceptsSymbol ")" then return leaf .matchSequence
    else
      let first ← starOrPattern inner
      if ← seesSymbol "," then
        let items ← commaFrom (isSymbol ")") (starOrPattern inner) r.rounds [first]
        symbol ")"
        return .form .matchSequence items
      else if isStar first then unexpected
      else
        symbol ")"
        return first
  | .symbol "\x7b" =>
    skip
    let (entries, rest) ← entriesFrom r inner r.rounds []
    symbol "\x7d"
    return .form (.matchMapping entries.length rest) (entries.map (·.1) ++ entries.map (·.2))
  | _ => unexpected

/-- Alternatives behind a first one. -/
def alternativesFrom (operand : Parse Node) : Nat → List Node → Parse (List Node)
  | 0, read => return read.reverse
  | rounds + 1, read => do
    if ← acceptsSymbol "|" then
      let next ← operand
      alternativesFrom operand rounds (next :: read)
    else return read.reverse

/-- Alternatives, with a name for what matches. -/
def named (r : Rules) (inner : Parse Node) : Parse Node := do
  let first ← closed r inner
  let node ← match ← alternativesFrom (closed r inner) r.rounds [first] with
    | [single] => pure single
    | alternatives => pure (.form .matchOr alternatives)
  if ← acceptsWord "as" then return .form (.matchAs (some (← namedCapture))) [node] else return node

/-- Patterns nested at most a number of levels. -/
def nested (r : Rules) : Nat → Parse Node
  | 0 => fail .tooDeep
  | levels + 1 => named r (nested r levels)

/-- The pattern of a case: a pattern, or a sequence without brackets. -/
def ofCase (r : Rules) : Parse Node := do
  let item := starOrPattern (nested r (bracketLimit + 2))
  let first ← item
  if ← seesSymbol "," then
    return .form .matchSequence (← commaFrom endsSequence item r.rounds [first])
  else if isStar first then unexpected
  else return first

end Localize.Syntax.Pattern
