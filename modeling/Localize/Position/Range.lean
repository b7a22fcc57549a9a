/-
  Ranges of characters and locations in a text. Both keep their order in the type; the checked
  constructors say which rule a pair of numbers breaks.
-/

namespace Localize

/-- Why numbers do not make a range, a location or a place in a text. -/
inductive PositionError where
  | negativeStart (start : Int)
  | rangeEnd (start stop : Int)
  | line (line : Int)
  | column (column : Int)
  | locationEnd (line column endLine endColumn : Int)
  /-- A line that the text does not have. -/
  | lineOutOfRange (line : Int) (count : Nat)
  /-- A range with more characters than a size can tell. -/
  | tooLong
  /-- A byte column inside a character: its first byte, where it begins in the line, and how many
  of its bytes lie before the column. -/
  | insideCharacter (firstByte start count : Nat)
deriving DecidableEq, Repr

/-- A range of characters, from `start` up to but not including `stop`. -/
structure TextRange where
  start : Nat
  stop : Nat
  start_le_stop : start ≤ stop := by omega
deriving DecidableEq, Repr

namespace TextRange

/-- The range between two numbers, if they are in order and not negative. -/
def of? (start stop : Int) : Except PositionError TextRange :=
  if start < 0 then .error (.negativeStart start)
  else if h : stop < start then .error (.rangeEnd start stop)
  else .ok ⟨start.toNat, stop.toNat, by omega⟩

/-- The number of characters in a range. -/
def length (r : TextRange) : Nat := r.stop - r.start

/-- The most that a size can tell: what a word of 64 bits with a sign holds. -/
def sizeLimit : Nat := 9223372036854775807

/-- The number of characters in a range, if a size can tell it. -/
def size? (r : TextRange) : Except PositionError Nat :=
  if r.length ≤ sizeLimit then .ok r.length else .error .tooLong

/-- Whether two ranges cross. Ranges that cross and hold a character each share one. -/
def overlaps (r s : TextRange) : Bool := r.start < s.stop && s.start < r.stop

end TextRange

/-- A location: first line and column, and the place just behind the last character. Lines and
columns count from one, in characters. -/
structure Location where
  line : Int
  column : Int
  endLine : Int
  endColumn : Int
  one_le_line : 1 ≤ line
  one_le_column : 1 ≤ column
  ordered : line < endLine ∨ line = endLine ∧ column ≤ endColumn
deriving DecidableEq, Repr

namespace Location

/-- The location with the given numbers, if they obey the rules. -/
def of? (line column endLine endColumn : Int) : Except PositionError Location :=
  if hl : line < 1 then .error (.line line)
  else if hc : column < 1 then .error (.column column)
  else if ho : line < endLine ∨ line = endLine ∧ column ≤ endColumn then
    .ok ⟨line, column, endLine, endColumn, by omega, by omega, ho⟩
  else .error (.locationEnd line column endLine endColumn)

/-- The location of a single point. -/
def point (line column : Nat) : Location where
  line := max line 1
  column := max column 1
  endLine := max line 1
  endColumn := max column 1
  one_le_line := by omega
  one_le_column := by omega
  ordered := by omega

/-- Line and column, as messages give them. -/
def text (l : Location) : String := s!"{l.line}:{l.column}"

end Location

end Localize
