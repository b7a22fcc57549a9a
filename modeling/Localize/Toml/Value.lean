/-
  Values of TOML documents, how messages show them, and what keeps them from being shown.
-/
import Localize.Calendar
import Localize.Number.Integer
import Localize.Value

namespace Localize.Toml

/-- A value. The offset of a date with a time counts minutes from universal time. -/
inductive Value where
  | text (s : String)
  | int (n : Int)
  | real (x : Double)
  | bool (b : Bool)
  | date (d : Date)
  | time (t : Time)
  | dateTime (d : Date) (t : Time) (offset : Option Int)
  | array (items : List Value)
  | table (entries : List (String × Value))
deriving Inhabited, Repr

/-- The hours and minutes of a time, and the rest of it as far as it is not zero. -/
def timeFields (t : Time) : List Nat :=
  [t.hour, t.minute] ++
    if t.microsecond ≠ 0 then [t.second, t.microsecond]
    else if t.second ≠ 0 then [t.second] else []

/-- The fields of a day. -/
def dateFields (d : Date) : List Nat := [d.year, d.month, d.day]

/-- Numbers with commas between them. -/
def commaed (ns : List Nat) : String := ", ".intercalate (ns.map toString)

/-- An offset from universal time, as messages show it. -/
def shownOffset (minutes : Int) : String :=
  if minutes = 0 then "datetime.timezone.utc"
  else if minutes < 0 then
    s!"datetime.timezone(datetime.timedelta(days=-1, seconds={86400 + 60 * minutes}))"
  else s!"datetime.timezone(datetime.timedelta(seconds={60 * minutes}))"

namespace Value

/-- The word for the type of a value in messages. -/
def typeName : Value → String
  | text _ => "str"
  | int _ => "int"
  | real _ => "float"
  | bool _ => "bool"
  | date _ => "datetime.date"
  | time _ => "datetime.time"
  | dateTime .. => "datetime.datetime"
  | array _ => "list"
  | table _ => "dict"

mutual

/-- A value as messages show it. -/
def shown : Value → String
  | text s => Text.quoted s
  | int n => toString n
  | real x => Localize.Value.realText x
  | bool b => if b then "True" else "False"
  | date d => "datetime.date(" ++ commaed (dateFields d) ++ ")"
  | time t => "datetime.time(" ++ commaed (timeFields t) ++ ")"
  | dateTime d t offset =>
    let zone := match offset with
      | some minutes => ", tzinfo=" ++ shownOffset minutes
      | none => ""
    "datetime.datetime(" ++ commaed (dateFields d ++ timeFields t) ++ zone ++ ")"
  | array items => "[" ++ shownItems items ++ "]"
  | table entries => "\x7b" ++ shownEntries entries ++ "\x7d"

def shownItems : List Value → String
  | [] => ""
  | [v] => shown v
  | v :: rest => shown v ++ ", " ++ shownItems rest

def shownEntries : List (String × Value) → String
  | [] => ""
  | [(k, v)] => Text.quoted k ++ ": " ++ shown v
  | (k, v) :: rest => Text.quoted k ++ ": " ++ shown v ++ ", " ++ shownEntries rest

end

/-- Why a value cannot be shown. -/
inductive Unshown where
  /-- An integer of more digits than numbers may have. -/
  | digits
  /-- Values that lie too deep inside of others. -/
  | depth
deriving DecidableEq, Repr

/-- How many values may lie one inside of the other to be shown. -/
def shownRoom : Nat := 990

mutual

/-- What keeps a value from being shown, where values are shown in the order in which they are
written; `room` is what is left for values inside of others. -/
def unshown? (room : Nat) (v : Value) : Option Unshown :=
  if room = 0 then some .depth
  else match v with
    | int n => if hasText n then none else some .digits
    | array items => unshownItem? (room - 1) items
    | table entries => unshownPair? (room - 1) entries
    | _ => none

def unshownItem? (room : Nat) : List Value → Option Unshown
  | [] => none
  | v :: rest => (unshown? room v).or (unshownItem? room rest)

def unshownPair? (room : Nat) : List (String × Value) → Option Unshown
  | [] => none
  | (_, v) :: rest => (unshown? room v).or (unshownPair? room rest)

end

/-- Whether a value holds other values. -/
def isContainer : Value → Bool
  | array _ => true
  | table _ => true
  | _ => false

end Value

end Localize.Toml
