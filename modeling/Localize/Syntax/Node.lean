/-
  Syntax trees of Python source. The constructs that folding looks at have constructors of their
  own; every other construct is a form with its children in reading order, which is the order of
  its parts in the grammar's tree and not always that of the text (a dictionary lists its keys
  before its values, a function its decorators behind its body).
-/
import Localize.Syntax.Token

namespace Localize.Syntax

/-- The constructs that folding passes through. A form carries the names and operators that belong
to it and, where lists of children meet, how many there are of each. -/
inductive Form where
  /-- A module. -/
  | module
  -- Expressions
  /-- A constant that is no string, as written. -/
  | constant (text : String)
  | boolOp (operator : String)
  | namedExpr
  | binOp (operator : String)
  | unaryOp (operator : String)
  | lambda
  | conditional
  /-- A dictionary; the flags say which of its values have a key. -/
  | dict (keyed : List Bool)
  | set
  | listComp
  | setComp
  | dictComp
  | generator
  | await
  | yield
  | yieldFrom
  | compare (operators : List String)
  /-- A replacement field with its conversion. -/
  | field (conversion : Option Char)
  | attribute (name : String)
  | subscript
  | list
  | tuple
  /-- A slice; the flags say which of its three parts are there. -/
  | slice (lower upper step : Bool)
  -- Parts of expressions
  | comprehension (isAsync : Bool)
  /-- Parameters: how many stand before a slash, how many behind it, whether there is a list of the
  rest, how many are by keyword only, which of these have a default, and whether there is a map of
  the rest. -/
  | parameters (positional normal : Nat) (rest : Bool) (keywordOnly : Nat) (defaulted : List Bool)
      (keywordRest : Bool)
  | parameter (name : String)
  /-- A keyword argument; without a name it is a double-starred one. -/
  | keyword (name : Option String)
  -- Statements
  | functionDef (isAsync : Bool) (name : String) (body decorators : Nat)
  | classDef (name : String) (bases keywords body : Nat)
  | returnStmt
  | delete
  | assign
  | augAssign (operator : String)
  | annAssign (simple : Bool)
  | forStmt (isAsync : Bool) (body : Nat)
  | whileStmt (body : Nat)
  | ifStmt (body : Nat)
  | withStmt (isAsync : Bool) (items : Nat)
  | matchStmt
  | raise
  | tryStmt (starred : Bool) (body handlers orelse : Nat)
  | assert
  | importStmt
  | importFrom (module : Option String) (level : Nat)
  | global (names : List String)
  | nonlocal (names : List String)
  | exprStmt
  | passStmt
  | breakStmt
  | continueStmt
  -- Parts of statements
  | alias (name : String) (asName : Option String)
  | withItem
  | handler (typed : Bool) (name : Option String)
  | matchCase (guarded : Bool)
  -- Patterns
  | matchValue
  | matchSingleton (name : String)
  | matchSequence
  | matchMapping (keys : Nat) (rest : Option String)
  | matchClass (positional : Nat) (names : List String)
  | matchStar (name : Option String)
  | matchAs (name : Option String)
  | matchOr
deriving DecidableEq, Repr

/-- A syntax tree. -/
inductive Node where
  /-- An identifier in its composed form. -/
  | name (id : String)
  /-- A string constant. -/
  | text (value : String)
  /-- A formatted string: constants and replacement fields. -/
  | joined (parts : List Node)
  /-- Two operands of a plus. -/
  | sum (left right : Node)
  | starred (inner : Node)
  | call (callee : Node) (arguments keywords : List Node) (span : Span)
  | form (kind : Form) (children : List Node)
deriving Repr, Inhabited

namespace Node

/-- The children of a node in reading order. -/
def children : Node → List Node
  | name _ => []
  | text _ => []
  | joined parts => parts
  | sum left right => [left, right]
  | starred inner => [inner]
  | call callee arguments keywords _ => callee :: (arguments ++ keywords)
  | form _ children => children

/-- Whether a tree has more than `limit` nodes on some path from its root. -/
def exceeds : Nat → Node → Bool
  | 0, _ => true
  | limit + 1, node => node.children.any (exceeds limit)

/-- What a single value can be stored in. -/
def isPlace : Node → Bool
  | name _ => true
  | form (.attribute _) _ => true
  | form .subscript _ => true
  | _ => false

mutual

/-- What can be deleted: places, and lists and tuples of them. -/
def isDeletable : Node → Bool
  | form .tuple items => areDeletable items
  | form .list items => areDeletable items
  | node => node.isPlace

def areDeletable : List Node → Bool
  | [] => true
  | n :: rest => isDeletable n && areDeletable rest

end

mutual

/-- What can be assigned to, apart from a star in front: places, and lists and tuples of targets,
starred or not. -/
def isTarget : Node → Bool
  | form .tuple items => areTargets items
  | form .list items => areTargets items
  | node => node.isPlace

def areTargets : List Node → Bool
  | [] => true
  | starred inner :: rest => isTarget inner && areTargets rest
  | n :: rest => isTarget n && areTargets rest

end

/-- A target, starred or not. -/
def isStarTarget : Node → Bool
  | starred inner => inner.isTarget
  | node => node.isTarget

end Node

end Localize.Syntax
