/-
  Dates of catalogs: a day and a time to the minute, with or without an offset from universal time of
  less than a day. The digits may be of any script where more than one value of them is allowed.
-/
import Localize.Calendar
import Localize.Number.Integer

namespace Localize.Catalog

open Localize.Text

/-- Why a date is refused. -/
inductive DateFault where
  /-- The date goes on over more than one line. -/
  | lines
  | malformed (text : String)
  /-- Something follows the date. -/
  | rest (rest : String)
  | year (year : Nat)
  | day
  /-- The offset, in minutes, is a day or more. -/
  | offset (minutes : Int)
deriving DecidableEq, Repr

/-- A time span in minutes as days, of which there may be less than none, and seconds. -/
def spanText (minutes : Int) : String :=
  let days := minutes.fdiv 1440
  let seconds := (minutes.fmod 1440) * 60
  s!"datetime.timedelta(days={days}" ++ (if seconds = 0 then "" else s!", seconds={seconds}") ++ ")"

/-- The wording of a fault. -/
def DateFault.message : DateFault → String
  | lines => "'NoneType' object has no attribute 'group'"
  | malformed text => "time data " ++ quoted text ++ " does not match format '%Y-%m-%d %H:%M'"
  | rest text => "unconverted data remains: " ++ text
  | year y => s!"year {y} is out of range"
  | day => "day is out of range for month"
  | offset minutes => "offset must be a timedelta strictly between -timedelta(hours=24) and " ++
      "timedelta(hours=24), not " ++ spanText minutes ++ "."

/-! ## Numbers of one or two digits -/

/-- The values of digits at the front of a text, as many as a number says. -/
def digitsAt : Nat → List Char → Option (List Nat × List Char)
  | 0, cs => some ([], cs)
  | _ + 1, [] => none
  | count + 1, c :: rest => do
    let d ← decimalDigit? c
    let (ds, rest) ← digitsAt count rest
    return (d :: ds, rest)

/-- A number of two digits. The rules give for each first digit the least and the greatest value of the
second one, which may be of any script where it may be any digit. -/
def twoDigits? (rules : List (Char × Nat × Nat)) : List Char → Option (Nat × List Char)
  | c :: d :: rest => do
    let (_, least, most) ← rules.find? (·.1 = c)
    let value ← if least = 0 && most = 9 then decimalDigit? d
      else if d.isDigit then some (d.toNat - 48) else none
    if least ≤ value && value ≤ most then some ((c.toNat - 48) * 10 + value, rest) else none
  | _ => none

/-- A number of one digit of ASCII that is not zero. -/
def oneDigit? : List Char → Option (Nat × List Char)
  | c :: rest => if '1' ≤ c && c ≤ '9' then some (c.toNat - 48, rest) else none
  | [] => none

/-- A number of one digit of any script. -/
def anyDigit? : List Char → Option (Nat × List Char)
  | c :: rest => (decimalDigit? c).map (·, rest)
  | [] => none

/-- A month. -/
def month? (cs : List Char) : Option (Nat × List Char) :=
  (twoDigits? [('1', 0, 2), ('0', 1, 9)] cs).or (oneDigit? cs)

/-- A day, which may have a blank for its first digit. -/
def day? (cs : List Char) : Option (Nat × List Char) :=
  (twoDigits? [('3', 0, 1), ('1', 0, 9), ('2', 0, 9), ('0', 1, 9)] cs).or
    (match cs with
    | ' ' :: rest => oneDigit? rest
    | _ => oneDigit? cs)

/-- An hour. -/
def hour? (cs : List Char) : Option (Nat × List Char) :=
  (twoDigits? [('2', 0, 3), ('0', 0, 9), ('1', 0, 9)] cs).or (anyDigit? cs)

/-- A minute. -/
def minute? (cs : List Char) : Option (Nat × List Char) :=
  (twoDigits? (['0', '1', '2', '3', '4', '5'].map (·, 0, 9)) cs).or (anyDigit? cs)

/-! ## Dates -/

/-- What follows a certain character. -/
def after? (c : Char) : List Char → Option (List Char)
  | [] => none
  | d :: rest => if c = d then some rest else none

/-- What follows white space, of which there has to be some. -/
def afterSpace? (cs : List Char) : Option (List Char) :=
  if (cs.head?.map isSpace).getD false then some (cs.dropWhile isSpace) else none

/-- The day and the time at the front of a text, of which the day is kept, and what follows. -/
def dateTime? (cs : List Char) : Option (Date × List Char) := do
  let (year, cs) ← digitsAt 4 cs
  let (month, cs) ← month? (← after? '-' cs)
  let (day, cs) ← day? (← after? '-' cs)
  let (_, cs) ← hour? (← afterSpace? cs)
  let (_, cs) ← minute? (← after? ':' cs)
  return (⟨ofDigits year, month, day⟩, cs)

/-- The offset from universal time at the end of a date, in minutes, and what stands before it. -/
def splitOffset (cs : List Char) : List Char × Option Int :=
  match cs.drop (cs.length - 5) with
  | sign :: digits =>
    match digitsAt 4 digits with
    | some ([a, b, c, d], []) =>
      let minutes : Int := ((10 * a + b) * 60 + (10 * c + d) : Nat)
      if sign = '+' then (cs.take (cs.length - 5), some minutes)
      else if sign = '-' then (cs.take (cs.length - 5), some (-minutes))
      else (cs, none)
    | _ => (cs, none)
  | [] => (cs, none)

/-- Checks the date of a field. A line feed at its end does not count. -/
def checkDate (value : String) : Except DateFault Unit :=
  let cs := value.toList
  let (cs, offset) := splitOffset (if cs.getLast? = some '\n' then cs.dropLast else cs)
  if cs.contains '\n' then .error .lines
  else match dateTime? cs with
  | none => .error (.malformed (String.ofList cs))
  | some (date, rest) =>
    if !rest.isEmpty then .error (.rest (String.ofList rest))
    else if date.year = 0 then .error (.year 0)
    else if !date.isValid then .error .day
    else match offset with
    | some minutes => if minutes.natAbs < 1440 then .ok () else .error (.offset minutes)
    | none => .ok ()

end Localize.Catalog
