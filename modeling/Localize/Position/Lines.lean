/-
  The lines of a text and the two ways to name a place in it: a line with a byte column, as the
  syntax tree does, and the offset of a character. A line ends with its terminator, which is a
  carriage return and a line feed, either of them alone, or the end of the text.
-/
import Localize.Position.Range

namespace Localize

/-- Splits a text into lines, each with its terminator; `line` holds the characters of the current
line, reversed. The last line is empty if the text ends with a terminator. -/
def splitLinesFrom (line : List Char) : List Char → List (List Char)
  | [] => [line.reverse]
  | '\r' :: '\n' :: rest => ('\n' :: '\r' :: line).reverse :: splitLinesFrom [] rest
  | c :: rest =>
    if c = '\r' || c = '\n' then (c :: line).reverse :: splitLinesFrom [] rest
    else splitLinesFrom (c :: line) rest

/-- The lines of a text with their terminators. -/
def splitLines (text : List Char) : List (List Char) := splitLinesFrom [] text

/-- The number of bytes that UTF-8 takes for characters. -/
def byteSize : List Char → Nat
  | [] => 0
  | c :: rest => c.utf8Size + byteSize rest

/-- The first byte of a character in UTF-8. -/
def firstByte (c : Char) : Nat :=
  let n := c.toNat
  if n < 0x80 then n
  else if n < 0x800 then 0xc0 + n / 0x40
  else if n < 0x10000 then 0xe0 + n / 0x1000
  else 0xf0 + n / 0x40000

/-- How many characters of a line lie before a byte column; a column behind the line counts them
all. The first two arguments count the characters and the bytes passed so far. -/
def charsBefore (chars bytes column : Nat) : List Char → Except PositionError Nat
  | [] => .ok chars
  | c :: rest =>
    if bytes ≥ column then .ok chars
    else if bytes + c.utf8Size ≤ column then charsBefore (chars + 1) (bytes + c.utf8Size) column rest
    else .error (.insideCharacter (firstByte c) bytes (column - bytes))

/-- The line, counted from one, and the column of the character at an offset. An offset at or
behind the end of the text lies in the last line. -/
def lineColumnFrom (line offset : Nat) : List (List Char) → Nat × Nat
  | [] => (line, offset + 1)
  | [last] => (line, min offset last.length + 1)
  | l :: rest =>
    if offset < l.length then (line, offset + 1) else lineColumnFrom (line + 1) (offset - l.length) rest

/-- A text with its lines. -/
structure LineIndex where
  text : List Char
  lines : List (List Char)
  flatten_lines : lines.flatten = text

theorem flatten_splitLinesFrom (line text : List Char) :
    (splitLinesFrom line text).flatten = line.reverse ++ text := by
  fun_induction splitLinesFrom line text with
  | case1 => simp
  | case2 line rest ih => simp [ih]
  | case3 line c rest _ h ih => simp [ih]
  | case4 line c rest _ h ih => simp [ih]

/-- Splitting loses no character. -/
theorem flatten_splitLines (text : List Char) : (splitLines text).flatten = text := by
  simp [splitLines, flatten_splitLinesFrom]

namespace LineIndex

/-- The lines of a text. -/
def of (text : String) : LineIndex := ⟨text.toList, splitLines text.toList, flatten_splitLines _⟩

/-- The offset of the character at a byte column of a line. A negative column counts back from the
end of the line. -/
def offset (index : LineIndex) (line column : Int) : Except PositionError Nat :=
  if line < 1 then .error (.lineOutOfRange line index.lines.length)
  else match index.lines.drop (line.toNat - 1) with
    | [] => .error (.lineOutOfRange line index.lines.length)
    | l :: _ => do
      let column := if column < 0 then (byteSize l : Int) + column else column
      let chars ← charsBefore 0 0 column.toNat l
      return (index.lines.take (line.toNat - 1)).flatten.length + chars

/-- Line and column, counted from one, of the character at an offset. Offsets outside of the text
stand for its ends. -/
def lineColumn (index : LineIndex) (offset : Int) : Nat × Nat :=
  lineColumnFrom 1 offset.toNat index.lines

/-- The range between two places; a missing end is the start. -/
def range (index : LineIndex) (line column : Int) (endLine endColumn : Option Int) :
    Except PositionError TextRange := do
  let start ← index.offset line column
  let stop ← index.offset (endLine.getD line) (endColumn.getD column)
  TextRange.of? start stop

/-- The location of the range between two offsets. -/
def locationOfRange (index : LineIndex) (r : TextRange) : Except PositionError Location :=
  let (line, column) := index.lineColumn r.start
  let (endLine, endColumn) := index.lineColumn r.stop
  Location.of? line column endLine endColumn

/-- The location of the range between two places. -/
def location (index : LineIndex) (line column : Int) (endLine endColumn : Option Int) :
    Except PositionError Location := do
  index.locationOfRange (← index.range line column endLine endColumn)

end LineIndex

namespace PositionError

/-- Two lower-case hexadecimal digits. -/
def hexByte (n : Nat) : String := String.ofList (Nat.toDigits 16 n)

/-- The wording of a broken rule. -/
def message : PositionError → String
  | negativeStart start => s!"SourceRange.start must be >= 0, got {start}"
  | tooLong => "cannot fit 'int' into an index-sized integer"
  | rangeEnd start stop => s!"SourceRange.end ({stop}) must be >= start ({start})"
  | line n => s!"SourceLocation.line must be >= 1 (1-indexed), got {n}"
  | column n => s!"SourceLocation.column must be >= 1 (1-indexed), got {n}"
  | locationEnd l c endLine endColumn =>
    s!"SourceLocation end ({endLine}:{endColumn}) precedes start ({l}:{c})"
  | lineOutOfRange n count => s!"Line {n} out of range (source has {count} lines)"
  | insideCharacter first start count =>
    if count = 1 then
      s!"'utf-8' codec can't decode byte 0x{hexByte first} in position {start}: unexpected end of data"
    else
      s!"'utf-8' codec can't decode bytes in position {start}-{start + count - 1}: unexpected end of data"

end PositionError

end Localize
