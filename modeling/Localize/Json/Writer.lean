/-
  JSON text of values: one line, a blank after each comma and colon. A sealed map is not data of
  the format, so its shown text takes its place. A value with an integer of too many digits is not written.
-/
import Localize.Number.Integer
import Localize.Value

namespace Localize.Json

/-- How a character is written between the quotes of a JSON string. -/
def stringChar (c : Char) : List Char :=
  if c = '"' then ['\\', '"']
  else if c = '\\' then ['\\', '\\']
  else if c = '\n' then ['\\', 'n']
  else if c = '\r' then ['\\', 'r']
  else if c = '\t' then ['\\', 't']
  else if c.toNat = 12 then ['\\', 'f']
  else if c.toNat = 8 then ['\\', 'b']
  else if c.toNat < 32 then '\\' :: 'u' :: Text.hexPadded 4 c.toNat
  else [c]

/-- The JSON string of a list of characters. -/
def stringChars (cs : List Char) : List Char := '"' :: cs.flatMap stringChar ++ ['"']

/-- The JSON string of a text. -/
def string (text : String) : String := String.ofList (stringChars text.toList)

/-- JSON text of a number. -/
def number (x : Double) : String := x.textWith "NaN" "Infinity"

mutual

/-- The JSON text that a value has if it is written. -/
def write : Value → String
  | .null => "null"
  | .bool b => if b then "true" else "false"
  | .int n => toString n
  | .real x => number x
  | .text s => string s
  | .list items => "[" ++ writeItems items ++ "]"
  | .tuple items => "[" ++ writeItems items ++ "]"
  | .map entries => "\x7b" ++ writeEntries entries ++ "\x7d"
  | .view entries => string ("\x7b" ++ Value.shownEntries entries ++ "\x7d")

def writeItems : List Value → String
  | [] => ""
  | [v] => write v
  | v :: rest => write v ++ ", " ++ writeItems rest

def writeEntries : List (String × Value) → String
  | [] => ""
  | [(k, v)] => string k ++ ": " ++ write v
  | (k, v) :: rest => string k ++ ": " ++ write v ++ ", " ++ writeEntries rest

end

/-! ## Values that are written -/

mutual

/-- Whether a value is written: each integer in it has a text, also those in sealed maps. -/
def isWritten : Value → Bool
  | .int n => hasText n
  | .list items => itemsWritten items
  | .tuple items => itemsWritten items
  | .map entries => entriesWritten entries
  | .view entries => entriesWritten entries
  | _ => true

def itemsWritten : List Value → Bool
  | [] => true
  | v :: rest => isWritten v && itemsWritten rest

def entriesWritten : List (String × Value) → Bool
  | [] => true
  | (_, v) :: rest => isWritten v && entriesWritten rest

end

/-- Why a value is not written. -/
inductive WriteFault where
  | tooManyDigits
deriving DecidableEq, Repr

/-- The wording of a fault. -/
def WriteFault.message : WriteFault → String
  | tooManyDigits => noTextMessage

/-- The JSON text of a value, if it is written. -/
def dump (v : Value) : Except WriteFault String :=
  if isWritten v then .ok (write v) else .error .tooManyDigits

end Localize.Json
