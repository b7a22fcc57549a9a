/-
  Forms that several constructs have in common, as phrases over tokens.
-/
import Localize.Syntax.Grammar.Basic
import Localize.Syntax.Mistake.Construct
import Localize.Syntax.Mistake.Phrase

namespace Localize.Syntax.Mistake

namespace Construct

open Phrase

/-- Whether a word is a name. -/
def isName (l : Lexeme) : Bool :=
  match l with
  | .word w => !isKeyword w
  | _ => false

/-- Whether a word is the beginning, or all, of a name that is a keyword in some places. -/
def beginsSoftKeyword (l : Lexeme) : Bool :=
  match l with
  | .word w => ["_", "case", "match"].any fun keyword => w.toList.isPrefixOf keyword.toList
  | _ => false

/-- Whether a token is an imaginary number. -/
def isImaginary (l : Lexeme) : Bool :=
  match l with
  | .number text => text.endsWith "j" || text.endsWith "J"
  | _ => false

/-- A name. -/
def name : Phrase Construct := one isName

/-- The end of a line. -/
def newline : Phrase Construct := token .newline

/-- A colon at the end of a line without a block behind it. -/
def empty (construct : String) : Phrase Construct :=
  row [symbol ":", newline, notAhead (token .indent), missingBlock construct]

/-- The end of a line where a colon should be. -/
def unopened : Phrase Construct := row [newline, mistake]

/-- What may stand in front of a definition, a loop or a context. -/
def optionalAsync : Phrase Construct := optional (word "async")

/-- An opening brace. -/
def openBrace : Phrase Construct := symbol "\x7b"

/-- A closing brace. -/
def closeBrace : Phrase Construct := symbol "\x7d"

/-- Operands of one strength joined by symbols. -/
def chain (symbols : List String) (operand : Construct) : Phrase Construct :=
  row [part operand, many (row [oneOf symbols, part operand])]

/-- Operands joined by a word. -/
def wordChain (w : String) (operand : Construct) : Phrase Construct :=
  choice [row [part operand, several (row [word w, part operand])], part operand]

/-- A comparison behind its left operand. -/
def comparisonRest : Phrase Construct :=
  choice [
    row [symbol "==", part .bitOr], row [symbol "!=", part .bitOr], row [symbol "<=", part .bitOr],
    row [symbol "<", part .bitOr], row [symbol ">=", part .bitOr], row [symbol ">", part .bitOr],
    row [word "not", word "in", part .bitOr], row [word "in", part .bitOr],
    row [word "is", word "not", part .bitOr], row [word "is", part .bitOr]]

/-- What is applied to an operand. -/
def suffix : Phrase Construct :=
  choice [
    row [symbol ".", name], part .generator,
    row [symbol "(", optional (part .arguments), symbol ")"],
    row [symbol "[", part .slices, symbol "]"]]

/-- The beginning of what is applied to an operand. -/
def aheadSuffix : Phrase Construct := oneOf ["(", "[", "."]

/-- The end of a place: the last attribute or index. -/
def placeEnd : Phrase Construct :=
  choice [
    row [part .placeBase, symbol ".", name, notAhead aheadSuffix],
    row [part .placeBase, symbol "[", part .slices, symbol "]", notAhead aheadSuffix]]

/-- A parameter that ends at a comma or in front of the closing symbol. -/
def closedBy (close : String) (p : Phrase Construct) : Phrase Construct :=
  choice [row [p, symbol ","], row [p, ahead (symbol close)]]

/-- Parameters in front of a slash. -/
def slashed (close : String) (p : Phrase Construct) : Phrase Construct :=
  choice [row [p, symbol "/", symbol ","], row [p, symbol "/", ahead (symbol close)]]

/-- Parameters: those with a slash behind them, the positional ones, then those behind a star. -/
def parameterForms (plainSlash defaultedSlash plain defaulted behindStar : Construct) :
    Phrase Construct :=
  choice [
    row [part plainSlash, many (part plain), many (part defaulted), optional (part behindStar)],
    row [part defaultedSlash, many (part defaulted), optional (part behindStar)],
    row [several (part plain), many (part defaulted), optional (part behindStar)],
    row [several (part defaulted), optional (part behindStar)],
    part behindStar]

/-- Mistakes in parameters: a default too early, parentheses, slashes and stars out of order. -/
def parameterMistakes (plain any plainSlash defaultedSlash early : Construct)
    (inParentheses : Phrase Construct) : Phrase Construct :=
  let slashes := choice [part plainSlash, part defaultedSlash]
  choice [
    row [many (part plain), part early, part plain, mistake],
    row [many (part plain), symbol "(", inParentheses, optional (symbol ","), symbol ")", mistake],
    row [symbol "/", symbol ",", mistake],
    row [slashes, many (part any), symbol "/", mistake],
    row [optional slashes, many (part any), symbol "*", choice [symbol ",", part plain],
      many (part any), symbol "/", mistake],
    row [several (part any), symbol "/", symbol "*", mistake]]

/-- Mistakes behind a star among parameters. -/
def starMistakes (close : String) (parameter : Phrase Construct) (plain any : Construct) :
    Phrase Construct :=
  choice [
    row [symbol "*", choice [symbol close, row [symbol ",", choice [symbol close, symbol "**"]]],
      mistake],
    row [symbol "*", parameter, symbol "=", mistake],
    row [symbol "*", choice [part plain, symbol ","], many (part any), symbol "*",
      choice [part plain, symbol ","], mistake]]

/-- Mistakes behind two stars among parameters. -/
def mapMistakes (parameter : Phrase Construct) : Phrase Construct :=
  choice [
    row [symbol "**", parameter, symbol "=", mistake],
    row [symbol "**", parameter, symbol ",", parameter, mistake],
    row [symbol "**", parameter, symbol ",", oneOf ["*", "**", "/"], mistake]]

/-- A condition with its block and what follows it. -/
def branch (keyword : String) (bad : Construct) : Phrase Construct :=
  choice [
    suspected (part bad),
    row [word keyword, part .namedExpression, symbol ":", part .block, part .furtherBranch],
    row [word keyword, part .namedExpression, symbol ":", part .block, optional (part .alternative)]]

/-- Mistakes of a construct with a condition. -/
def conditionMistakes (keyword construct : String) : Phrase Construct :=
  choice [
    row [word keyword, part .namedExpression, unopened],
    row [word keyword, part .namedExpression, empty construct]]

/-- A loop over values, behind what stands in front of its keyword. -/
def forForm (front : List (Phrase Construct)) : Phrase Construct :=
  decided (row (front ++ [word "for", part .starTargets, word "in"]))
    (row [part .starExpressions, symbol ":", part .block, optional (part .alternative)])

/-- A loop of a comprehension, behind what stands in front of its keyword. -/
def loopForm (front : List (Phrase Construct)) : Phrase Construct :=
  decided (row (front ++ [word "for", part .starTargets, word "in"]))
    (row [part .disjunction, many (row [word "if", part .disjunction])])

/-- Contexts with their targets, whatever comes behind them. -/
def contextFront (context : Construct) : Phrase Construct :=
  listed (row [part context, optional (row [word "as", part .starTarget])])

/-- An argument by position. -/
def positional : Phrase Construct :=
  choice [part .assignmentExpression, row [part .expression, notAhead (symbol ":=")]]

/-- A handler's type with its name. -/
def handled : Phrase Construct := row [part .expression, optional (row [word "as", name])]

end Construct

end Localize.Syntax.Mistake
