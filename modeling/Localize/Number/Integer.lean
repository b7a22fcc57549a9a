/-
  Integers as people write them: blanks around, a sign in front, and single underscores between the
  digits, which may be of any script. Integers with too many digits are neither read nor written.
-/
import Localize.Text.Quoted
import Localize.Text.Split
import Localize.Text.Word

namespace Localize

open Localize.Text

/-- The most digits that the decimal text of an integer may have. -/
def digitLimit : Nat := 4300

/-- Whether an integer has no more digits than its decimal text may have. -/
@[irreducible]
def hasText (n : Int) : Bool := n.natAbs < Nat.pow 10 digitLimit

/-- The wording for an integer that has no text. -/
def noTextMessage : String :=
  s!"Exceeds the limit ({digitLimit} digits) for integer string conversion; use sys.set_int_max_str_digits() to increase the limit"

/-- Why a text is no integer. -/
inductive IntegerFault where
  | malformed (text : String)
  | tooManyDigits (count : Nat)
deriving DecidableEq, Repr

/-- The most characters of a malformed text that a message shows. -/
def shownLimit : Nat := 200

/-- The wording of a fault. -/
def IntegerFault.message : IntegerFault → String
  | malformed text =>
    "invalid literal for int() with base 10: " ++ String.ofList ((quoted text).toList.take shownLimit)
  | tooManyDigits count =>
    s!"Exceeds the limit ({digitLimit} digits) for integer string conversion: value has {count} digits; use sys.set_int_max_str_digits() to increase the limit"

/-- The values of digits that may have single underscores between them. -/
def groupedDigits? : List Char → Option (List Nat)
  | [] => none
  | [c] => (decimalDigit? c).map fun d => [d]
  | c :: '_' :: rest => do return (← decimalDigit? c) :: (← groupedDigits? rest)
  | c :: rest => do return (← decimalDigit? c) :: (← groupedDigits? rest)

/-- Whether a number has a minus sign, and what follows its sign. -/
def splitSign : List Char → Bool × List Char
  | '-' :: rest => (true, rest)
  | '+' :: rest => (false, rest)
  | cs => (false, cs)

/-- Whether a character is a blank around an integer. The control characters that separate records are
none. -/
def isIntegerBlank (c : Char) : Bool := isSpace c && !(28 ≤ c.toNat && c.toNat < 32)

/-- The integer that a text denotes. -/
def readInteger (text : String) : Except IntegerFault Int :=
  let (negative, cs) := splitSign (trim isIntegerBlank text.toList)
  match groupedDigits? cs with
  | none => .error (.malformed text)
  | some digits =>
    if digits.length > digitLimit then .error (.tooManyDigits digits.length)
    else .ok (if negative then -(ofDigits digits : Int) else ofDigits digits)

end Localize
