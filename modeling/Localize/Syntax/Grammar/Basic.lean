/-
  Reading of trees from tokens: the state is the list of tokens that are left, and a failure names
  the token at which it happened. Loops over tokens take the number of rounds they may run.
-/
import Localize.Syntax.Node

namespace Localize.Syntax

/-- A token at which reading failed, and why. -/
structure Failure where
  token : Token
  cause : Cause
deriving Repr

/-- Reads something from the front of the tokens. -/
abbrev Parse := StateT (List Token) (Except Failure)

namespace Parse

/-- The end of every list of tokens. -/
def noToken : Token := ⟨.finish, ⟨1, 0⟩, ⟨1, 0⟩⟩

/-- The next token, which stays where it is. -/
def current : Parse Token := fun tokens => .ok (tokens.headD noToken, tokens)

/-- What the next token is. -/
def lexeme : Parse Lexeme := fun tokens => .ok ((tokens.headD noToken).lexeme, tokens)

/-- What the token behind the next one is. -/
def lexemeBehind : Parse Lexeme := fun tokens => .ok ((tokens.tail.headD noToken).lexeme, tokens)

/-- Steps over the next token. -/
def skip : Parse Unit := fun tokens => .ok ((), tokens.tail)

/-- Fails at the next token. -/
def fail (cause : Cause) : Parse α := fun tokens => .error ⟨tokens.headD noToken, cause⟩

/-- Fails at the next token for no special reason. -/
def unexpected : Parse α := fail .invalidSyntax

/-- Whether the next token is the given one. -/
def sees (l : Lexeme) : Parse Bool := return (← lexeme) == l

/-- Whether the next token is the given symbol. -/
def seesSymbol (s : String) : Parse Bool := sees (.symbol s)

/-- Whether the next token is the given word. -/
def seesWord (w : String) : Parse Bool := sees (.word w)

/-- Steps over the next token if it is the given one, and tells whether it was. -/
def accepts (l : Lexeme) : Parse Bool := do
  if ← sees l then skip; return true else return false

/-- Steps over the given symbol, if it is next. -/
def acceptsSymbol (s : String) : Parse Bool := accepts (.symbol s)

/-- Steps over the given word, if it is next. -/
def acceptsWord (w : String) : Parse Bool := accepts (.word w)

/-- Steps over the given token, which has to be next. -/
def expect (l : Lexeme) : Parse Unit := do
  if ← accepts l then return () else unexpected

/-- Steps over the given symbol, which has to be next. -/
def symbol (s : String) : Parse Unit := expect (.symbol s)

/-- Steps over the given word, which has to be next. -/
def word (w : String) : Parse Unit := expect (.word w)

/-- Tries one way and, where it fails, another one from the same place. -/
def orElse (first second : Parse α) : Parse α := fun tokens =>
  match first tokens with
  | .ok result => .ok result
  | .error _ => second tokens

end Parse

/-- Words that are no identifiers. -/
def keywords : List String :=
  ["False", "None", "True", "and", "as", "assert", "async", "await", "break", "class", "continue",
   "def", "del", "elif", "else", "except", "finally", "for", "from", "global", "if", "import", "in",
   "is", "lambda", "nonlocal", "not", "or", "pass", "raise", "return", "try", "while", "with",
   "yield"]

/-- Whether a word is a keyword. -/
def isKeyword (w : String) : Bool := keywords.contains w

end Localize.Syntax
