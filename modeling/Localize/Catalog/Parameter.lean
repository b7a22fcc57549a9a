/-
  Values with parameters: parts between semicolons, of which the first one stands for itself and the
  others are a name and a value each. A value may come in pieces, which have numbers behind their names
  and are put together in the order of the numbers; a piece whose name ends with a star is encoded.
-/
import Localize.Number.Integer
import Localize.Sort
import Localize.Text.Case
import Localize.Text.Split

namespace Localize.Catalog

open Localize.Text

/-! ## Parts -/

/-- The parts of a value between its semicolons outside of quotes; `part` holds the characters of the
current part, reversed. -/
def partsFrom (inQuotes escaped : Bool) (part : List Char) : List Char → List (List Char)
  | [] => [part.reverse]
  | c :: rest =>
    if c = ';' && !inQuotes then part.reverse :: partsFrom false false [] rest
    else partsFrom (if c = '"' && !escaped then !inQuotes else inQuotes) (c = '\\') (c :: part) rest

/-- The text with one character in place of each pair of a backslash and a certain character. -/
def replaceEscaped (escaped : Char) : List Char → List Char
  | [] => []
  | [c] => [c]
  | c :: d :: rest =>
    if c = '\\' && d = escaped then escaped :: replaceEscaped escaped rest
    else c :: replaceEscaped escaped (d :: rest)

/-- A value without the quotes or angle brackets around it. -/
def unquoted (cs : List Char) : List Char :=
  if cs.length < 2 then cs
  else match cs.head?, cs.getLast? with
    | some '"', some '"' => replaceEscaped '"' (replaceEscaped '\\' (cs.drop 1).dropLast)
    | some '<', some '>' => (cs.drop 1).dropLast
    | _, _ => cs

/-- The name and the value that a part gives. -/
def nameAndValue (part : List Char) : String × String :=
  match splitFirst (· = '=') part with
  | (name, some value) =>
    (lowerCase (String.ofList (trimSpace name)), String.ofList (unquoted (trimSpace value)))
  | (name, none) => (String.ofList (trimSpace name), "")

/-! ## Pieces -/

/-- What stands for the value of a parameter. -/
inductive ParameterValue where
  | text (value : String)
  /-- A value with an encoding and a language of its own. -/
  | encoded
deriving DecidableEq, Repr

/-- A piece of a value. -/
structure Piece where
  number : Option Int
  text : String
  encoded : Bool
deriving DecidableEq, Repr

/-- Why parameters are refused. -/
inductive ParameterFault where
  | integer (f : IntegerFault)
  /-- Of the pieces of a value some are numbered and some are not. -/
  | mixed (firstIsNumbered : Bool)
deriving DecidableEq, Repr

/-- The wording of a fault. -/
def ParameterFault.message : ParameterFault → String
  | integer f => f.message
  | mixed true => "'<' not supported between instances of 'NoneType' and 'int'"
  | mixed false => "'<' not supported between instances of 'int' and 'NoneType'"

/-- The name of the parameter that the name of a piece belongs to, with the digits behind it, if there
are any. -/
def pieceName? (name : String) : Option (String × Option String) :=
  let cs := name.toList
  let isNameChar (c : Char) : Bool := c.isAlphanum || c = '_'
  match cs.takeWhile isNameChar, cs.dropWhile isNameChar with
  | [], _ => none
  | base, '*' :: number =>
    let digits := number.takeWhile Char.isDigit
    let rest := number.dropWhile Char.isDigit
    if digits.isEmpty then if rest.isEmpty then some (String.ofList base, none) else none
    else if rest.isEmpty || rest = ['*'] then some (String.ofList base, some (String.ofList digits))
    else none
  | _, _ => none

/-- Adds a piece to those of its parameter. -/
def addPiece (name : String) (piece : Piece) (pieces : List (String × List Piece)) :
    List (String × List Piece) :=
  match pieces with
  | [] => [(name, [piece])]
  | (other, ps) :: rest =>
    if other = name then (other, ps ++ [piece]) :: rest else (other, ps) :: addPiece name piece rest

/-- Tells whole values from pieces, which are collected by the names of their parameters. -/
def sortOut : List (String × String) →
    Except ParameterFault (List (String × String) × List (String × List Piece)) :=
  List.foldlM (fun (whole, pieces) (name, value) =>
    match pieceName? name with
    | none => .ok (whole ++ [(name, value)], pieces)
    | some (base, digits) => do
      let number ← match digits with
        | none => pure none
        | some digits => ((readInteger digits).mapError ParameterFault.integer).map some
      return (whole, addPiece base ⟨number, value, name.toList.getLast? = some '*'⟩ pieces)) ([], [])

/-- Whether a piece may stand in front of another one: by the numbers, and by the texts where these are
equal. -/
def Piece.mayPrecede (p q : Piece) : Bool :=
  let a := p.number.getD 0
  let b := q.number.getD 0
  a < b || a = b && !comesBefore q.text p.text

/-- The value that pieces make up. -/
def valueOfPieces (pieces : List Piece) : Except ParameterFault ParameterValue :=
  match pieces with
  | [] => .ok (.text "")
  | first :: rest =>
    if rest.any (·.number.isSome ≠ first.number.isSome) then .error (.mixed first.number.isSome)
    else if pieces.any (·.encoded) then .ok .encoded
    else .ok (.text ("".intercalate ((sortBy Piece.mayPrecede pieces).map (·.text))))

/-- The parameters of a value: the whole ones, and behind them those that come in pieces. -/
def parameters (value : String) : Except ParameterFault (List (String × ParameterValue)) := do
  let given := (partsFrom false false [] value.toList).map nameAndValue
  let (whole, pieces) ← sortOut (given.drop 1)
  let joined ← pieces.mapM fun (name, ps) => do return (name, ← valueOfPieces ps)
  return (given.take 1 ++ whole).map (fun (name, text) => (name, .text text)) ++ joined

/-- The last value of a parameter. -/
def parameter? (name value : String) : Except ParameterFault (Option ParameterValue) := do
  return (← parameters value).reverse.lookup name

end Localize.Catalog
