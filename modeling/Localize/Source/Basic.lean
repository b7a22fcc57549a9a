/-
  Localization sources: a function from keys to values, or nested maps that a key leads through.
  A source resolves a key to a value, or leaves it undefined; what a map holds is sealed when the
  source is made.
-/
import Localize.Number.Integer
import Localize.Source.Key
import Localize.Value

namespace Localize

/-- Why a source does not answer at all. -/
inductive LookupFault where
  /-- The function of the source refuses the key. -/
  | refused (message : String)
  /-- An index into a list has more digits than a number may have. -/
  | tooManyDigits (count : Nat)
deriving DecidableEq, Repr

namespace LookupFault

/-- The wording of a fault. -/
def message : LookupFault → String
  | refused message => message
  | tooManyDigits count => (IntegerFault.tooManyDigits count).message

end LookupFault

/-- A localization source with the name that messages give it. -/
inductive Source where
  /-- Asks a function; `null` stands for an undefined key. -/
  | function (name : String) (lookup : String → Except LookupFault Value)
  /-- Follows the segments of a key through sealed maps and lists. -/
  | mapping (name : String) (entries : List (String × Value))

namespace Source

/-- The name of a source. -/
def name : Source → String
  | function name _ => name
  | mapping name _ => name

/-- The source with another name. -/
def named (name : String) : Source → Source
  | function _ lookup => function name lookup
  | mapping _ entries => mapping name entries

/-- The source over nested maps. -/
def ofMap (name : String) (entries : List (String × Value)) : Source :=
  mapping name (Value.sealedEntries entries)

/-- The source that looks keys up in a table as they are. -/
def ofTable (name : String) (entries : List (String × Value)) : Source :=
  function name fun key => .ok ((valueAt? key entries).getD .null)

/-- The item of a list that a segment gives the index of, in decimal digits of any script. -/
def item? (items : List Value) (segment : String) : Except LookupFault (Option Value) :=
  match Text.decimalDigits? segment.toList with
  | none => .ok none
  | some digits =>
    if digits.length > digitLimit then .error (.tooManyDigits digits.length)
    else .ok items[Text.ofDigits digits]?

/-- One step from a value along a segment. -/
def step (value : Value) (segment : String) : Except LookupFault (Option Value) :=
  match value with
  | .map entries => .ok (valueAt? segment entries)
  | .view entries => .ok (valueAt? segment entries)
  | .list items => item? items segment
  | .tuple items => item? items segment
  | _ => .ok none

/-- Follows segments from a value as far as they lead. -/
def follow (value : Value) : List String → Except LookupFault (Option Value)
  | [] => .ok (some value)
  | segment :: rest => do
    match ← step value segment with
    | none => return none
    | some next => follow next rest

/-- The value without the mark for an undefined one. -/
def defined (value : Value) : Option Value := if value.isNull then none else some value

/-- Resolves a key; `none` stands for an undefined one. -/
def resolve (source : Source) (key : String) : Except LookupFault (Option Value) :=
  match source with
  | function _ lookup => return defined (← lookup key)
  | mapping _ entries => return (← follow (.view entries) (Key.segments key)).bind defined

end Source

end Localize
