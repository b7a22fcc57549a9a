/-
  TOML reader: a text is a document, or a located fault. Statements are read one after the other;
  each adds to the document or declares a table.
-/
import Localize.Number.Integer
import Localize.Text.Cursor
import Localize.Text.Word
import Localize.Toml.Document

namespace Localize.Toml

open Localize.Text

/-- What is wrong with a text. -/
inductive Cause where
  | statement
  | lineEnd
  /-- A closing delimiter that is missing. -/
  | delimiter (text : String)
  | foundCharacter (c : Char)
  | stringCharacter (c : Char)
  | declaredTwice (path : Path)
  | immutable (path : Path)
  | redefined (path : Path)
  | overwritten
  | tableEnd
  | arrayEnd
  | equalsSign
  | keyStart
  | unclosedArray
  | unclosedTable
  | duplicate (key : String)
  | escape
  | hexValue
  | notScalar
  | unterminated
  | date
  | value
deriving DecidableEq, Repr

/-- The wording of a cause. -/
def Cause.message : Cause → String
  | statement => "Invalid statement"
  | lineEnd => "Expected newline or end of document after a statement"
  | delimiter text => "Expected " ++ quoted text
  | foundCharacter c => "Found invalid character " ++ quoted c.toString
  | stringCharacter c => "Illegal character " ++ quoted c.toString
  | declaredTwice path => "Cannot declare " ++ path.shown ++ " twice"
  | immutable path => "Cannot mutate immutable namespace " ++ path.shown
  | redefined path => "Cannot redefine namespace " ++ path.shown
  | overwritten => "Cannot overwrite a value"
  | tableEnd => "Expected ']' at the end of a table declaration"
  | arrayEnd => "Expected ']]' at the end of an array declaration"
  | equalsSign => "Expected '=' after a key in a key/value pair"
  | keyStart => "Invalid initial character for a key part"
  | unclosedArray => "Unclosed array"
  | unclosedTable => "Unclosed inline table"
  | duplicate key => "Duplicate inline table key " ++ quoted key
  | escape => "Unescaped '\\' in a string"
  | hexValue => "Invalid hex value"
  | notScalar => "Escaped character is not a Unicode scalar value"
  | unterminated => "Unterminated string"
  | date => "Invalid date or datetime"
  | value => "Invalid value"

/-- Why a text is no document. -/
inductive Fault where
  | at (cause : Cause) (position : Nat)
  /-- An integer of more digits than numbers may have. -/
  | tooManyDigits (count : Nat)
  | tooDeep
deriving DecidableEq, Repr

/-- Makes a line feed of each carriage return in front of one. -/
def unifyPairs : List Char → List Char
  | [] => []
  | '\r' :: '\n' :: rest => '\n' :: unifyPairs rest
  | c :: rest => c :: unifyPairs rest

/-- The wording of a fault in a text, with its place. -/
def Fault.message (text : List Char) : Fault → String
  | .at cause position =>
    let cs := unifyPairs text
    let (line, column) := place cs position
    let where_ := if position ≥ cs.length then "end of document"
      else s!"line {line}, column {column}"
    cause.message ++ " (at " ++ where_ ++ ")"
  | tooManyDigits count => (IntegerFault.tooManyDigits count).message
  | tooDeep => "maximum recursion depth exceeded"

/-- Reads something at a cursor. -/
abbrev Reads (α : Type) := Cursor → Except Fault (α × Cursor)

/-- Fails at a cursor. -/
def failAt (s : Cursor) (cause : Cause) : Except Fault α := .error (.at cause s.position)

/-! ## Blanks and comments -/

def isBlank (c : Char) : Bool := c = ' ' || c = '\t'

def isBlankOrNewline (c : Char) : Bool := isBlank c || c = '\n'

/-- A control character. -/
def isControl (c : Char) : Bool := c.toNat < 32 || c.toNat = 127

/-- A control character that no line may hold. -/
def isIllegal (c : Char) : Bool := isControl c && c ≠ '\t'

/-- A control character that no text of several lines may hold. -/
def isIllegalInLines (c : Char) : Bool := isIllegal c && c ≠ '\n'

/-- Steps over blanks. -/
def skipBlanks (s : Cursor) : Cursor := s.skipWhile isBlank

/-- Steps over a comment, if one comes next, up to the end of the line. -/
def skipComment (s : Cursor) : Except Fault Cursor :=
  if s.head? = some '#' then
    let (text, rest) := (s.skip 1).takeWhile (· ≠ '\n')
    let good := text.takeWhile (!isIllegal ·)
    match text.drop good.length with
    | [] => .ok rest
    | c :: _ => failAt ((s.skip 1).skip good.length) (.foundCharacter c)
  else .ok s

/-- Steps over blanks, line ends and comments. -/
def skipFiller : Nat → Cursor → Except Fault Cursor
  | 0, s => .ok s
  | rounds + 1, s => do
    let next ← skipComment (s.skipWhile isBlankOrNewline)
    if next.position = s.position then return s else skipFiller rounds next

/-- Steps over all blanks, line ends and comments that come next. -/
def filler (s : Cursor) : Except Fault Cursor := skipFiller (s.rest.length + 1) s

/-! ## Strings -/

/-- The rest of a text from the first place on where certain characters come next. -/
def findFrom (delimiter : List Char) (s : Cursor) : List Char → List Char × Option Cursor
  | [] => ([], none)
  | c :: rest =>
    if delimiter.isPrefixOf (c :: rest) then ([], some s)
    else
      let (before, found) := findFrom delimiter ⟨s.position + 1, rest⟩ rest
      (c :: before, found)

/-- Reads characters as they are up to a delimiter, which is stepped over. -/
def literalText (delimiter : List Char) (illegal : Char → Bool) : Reads String := fun s =>
  match findFrom delimiter s s.rest with
  | (_, none) => failAt (s.skip s.rest.length) (.delimiter (String.ofList delimiter))
  | (text, some found) =>
    let good := text.takeWhile (!illegal ·)
    match text.drop good.length with
    | [] => .ok (String.ofList text, found.skip delimiter.length)
    | c :: _ => failAt (s.skip good.length) (.foundCharacter c)

/-- What a one-letter escape stands for. -/
def letterEscape? (c : Char) : Option Char :=
  match c with
  | 'b' => some (Char.ofNat 8)
  | 't' => some '\t'
  | 'n' => some '\n'
  | 'f' => some (Char.ofNat 12)
  | 'r' => some '\r'
  | '"' => some '"'
  | '\\' => some '\\'
  | _ => none

/-- Reads the digits of an escape by code point. -/
def hexEscape (width : Nat) : Reads (List Char) := fun s =>
  let ds := s.rest.take width
  match hexNumber? ds with
  | some n =>
    if ds.length < width then failAt s .hexValue
    else if n < 0xd800 || (0xe000 ≤ n && n < 0x110000) then .ok ([Char.ofNat n], s.skip width)
    else failAt (s.skip width) .notScalar
  | none => failAt s .hexValue

/-- Steps over the blanks behind a backslash that ends its line, and over those of further lines. -/
def lineContinuation (s : Cursor) (c : Char) : Except Fault (List Char × Cursor) :=
  let next := s.skip 2
  if c = '\n' then .ok ([], next.skipWhile isBlankOrNewline)
  else
    let next := skipBlanks next
    match next.head? with
    | none => .ok ([], next)
    | some '\n' => .ok ([], next.skipWhile isBlankOrNewline)
    | some _ => failAt next .escape

/-- Reads an escape, whose backslash comes next. -/
def escape (multiline : Bool) : Reads (List Char) := fun s =>
  let next : Cursor := ⟨s.position + 2, s.rest.drop 2⟩
  match s.rest with
  | _ :: c :: _ =>
    if multiline && isBlankOrNewline c then lineContinuation s c
    else if c = 'u' then hexEscape 4 next
    else if c = 'U' then hexEscape 8 next
    else match letterEscape? c with
      | some e => .ok ([e], next)
      | none => failAt next .escape
  | _ => failAt next .escape

/-- Reads a string with escapes up to its closing quotes, which are stepped over; `read` holds the
characters so far, reversed. -/
def basicTextFrom (multiline : Bool) : Nat → List Char → Reads String
  | 0, _, s => failAt s .unterminated
  | rounds + 1, read, s =>
    match s.rest with
    | [] => failAt s .unterminated
    | c :: _ =>
      if c = '"' then
        if !multiline then .ok (String.ofList read.reverse, s.skip 1)
        else if s.startsWith ['"', '"', '"'] then .ok (String.ofList read.reverse, s.skip 3)
        else basicTextFrom multiline rounds (c :: read) (s.skip 1)
      else if c = '\\' then do
        let (text, next) ← escape multiline s
        basicTextFrom multiline rounds (text.reverse ++ read) next
      else if if multiline then isIllegalInLines c else isIllegal c then failAt s (.stringCharacter c)
      else basicTextFrom multiline rounds (c :: read) (s.skip 1)

/-- Reads a string with escapes behind its opening quotes. -/
def basicText (multiline : Bool) : Reads String := fun s =>
  basicTextFrom multiline (s.rest.length + 1) [] s

/-- Reads a text of several lines behind its opening quotes. A line end right behind them does not
count, and up to two quotes may stand right before the closing ones. -/
def linesText (quote : Char) : Reads String := fun s => do
  let s := if s.head? = some '\n' then s.skip 1 else s
  let (text, next) ←
    if quote = '"' then basicText true s
    else literalText [quote, quote, quote] isIllegalInLines s
  if next.startsWith [quote, quote] then
    return (text ++ String.ofList [quote, quote], next.skip 2)
  else if next.head? = some quote then return (text ++ quote.toString, next.skip 1)
  else return (text, next)

/-- Reads a string, whose opening quote comes next. -/
def stringValue (quote : Char) : Reads String := fun s =>
  if s.startsWith [quote, quote, quote] then linesText quote (s.skip 3)
  else if quote = '"' then basicText false (s.skip 1)
  else literalText [quote] isIllegal (s.skip 1)

/-! ## Keys -/

/-- A character of a key without quotes. -/
def isBareKey (c : Char) : Bool := c.isAlphanum || c = '-' || c = '_'

/-- Reads a part of a key. -/
def keyPart : Reads String := fun s =>
  match s.head? with
  | some '\'' => literalText ['\''] isIllegal (s.skip 1)
  | some '"' => basicText false (s.skip 1)
  | some c =>
    if isBareKey c then
      let (name, next) := s.takeWhile isBareKey
      .ok (String.ofList name, next)
    else failAt s .keyStart
  | none => failAt s .keyStart

/-- Reads the parts of a key behind the first ones, which come reversed. -/
def keyFrom : Nat → List String → Reads Path
  | 0, read, s => .ok (read.reverse, s)
  | rounds + 1, read, s =>
    if s.head? = some '.' then do
      let (part, next) ← keyPart (skipBlanks (s.skip 1))
      keyFrom rounds (part :: read) (skipBlanks next)
    else .ok (read.reverse, s)

/-- Reads a key with dots between its parts, and the blanks behind it. -/
def key : Reads Path := fun s => do
  let (part, next) ← keyPart s
  keyFrom s.rest.length [part] (skipBlanks next)

/-! ## Numbers, dates and times -/

/-- The number of digits at the front of a text with single underscores between them, in
characters. -/
def digitRun (isDigit : Char → Bool) : List Char → Nat
  | [] => 0
  | '_' :: d :: rest => if isDigit d then digitRun isDigit rest + 2 else 0
  | c :: rest => if isDigit c then digitRun isDigit rest + 1 else 0

/-- The digits at the front of a text, which do not begin with an underscore. -/
def digitsAt (isDigit : Char → Bool) (cs : List Char) : List Char :=
  if cs.head?.any isDigit then cs.take (digitRun isDigit cs) else []

/-- The value of digits, underscores left out. -/
def valueOf (radix : Nat) (ds : List Char) : Nat :=
  ds.foldl (fun n d => (hexValue? d).elim n (n * radix + ·)) 0

/-- A digit of a radix. -/
def isRadixDigit (radix : Nat) (c : Char) : Bool := (hexValue? c).any (· < radix)

/-- Reads an integer behind the mark of a radix. -/
def radixInteger? (s : Cursor) : Option (Value × Cursor) :=
  match s.rest with
  | '0' :: m :: rest =>
    let radix := if m = 'x' then 16 else if m = 'o' then 8 else if m = 'b' then 2 else 0
    let ds := digitsAt (isRadixDigit radix) rest
    if radix = 0 || ds.isEmpty then none
    else some (.int (valueOf radix ds), s.skip (2 + ds.length))
  | _ => none

/-- The digits behind a mark at the front of a text. -/
def behind (marks : List Char) (cs : List Char) : List Char :=
  match cs with
  | m :: rest => if marks.contains m then digitsAt Char.isDigit rest else []
  | [] => []

/-- The exponent at the front of a text: its sign, its digits, and all of its characters. -/
def exponent (cs : List Char) : Bool × List Char × Nat :=
  match cs with
  | e :: rest =>
    if e = 'e' || e = 'E' then
      let (negative, signs, rest) := match rest with
        | '+' :: rest => (false, 1, rest)
        | '-' :: rest => (true, 1, rest)
        | rest => (false, 0, rest)
      let ds := digitsAt Char.isDigit rest
      if ds.isEmpty then (false, [], 0) else (negative, ds, 1 + signs + ds.length)
    else (false, [], 0)
  | [] => (false, [], 0)

/-- Reads a number in decimal notation. -/
def decimal? (s : Cursor) : Option (Except Fault (Value × Cursor)) :=
  let (negative, signs) := match s.head? with
    | some '-' => (true, 1)
    | some '+' => (false, 1)
    | _ => (false, 0)
  let body := s.skip signs
  let whole := if body.head? = some '0' then ['0'] else digitsAt Char.isDigit body.rest
  if whole.isEmpty then none
  else
    let afterWhole := body.skip whole.length
    let fraction := behind ['.'] afterWhole.rest
    let afterFraction := if fraction.isEmpty then afterWhole else afterWhole.skip (1 + fraction.length)
    let (below, power, width) := exponent afterFraction.rest
    let next := afterFraction.skip width
    if fraction.isEmpty && width = 0 then
      let count := (whole.filter (· ≠ '_')).length
      let n : Int := valueOf 10 whole
      if count > digitLimit then some (.error (.tooManyDigits count))
      else some (.ok (.int (if negative then -n else n), next))
    else
      let places := (fraction.filter (· ≠ '_')).length
      let power : Int := valueOf 10 power
      let exponent := (if below then -power else power) - places
      some (.ok (.real (Double.ofDecimal negative (valueOf 10 (whole ++ fraction)) exponent), next))

/-- A number of exactly as many digits as given at the front of a text. -/
def fixed? (width : Nat) (cs : List Char) : Option Nat :=
  let ds := cs.take width
  if ds.length = width && ds.all Char.isDigit then some (valueOf 10 ds) else none

/-- The fraction of a second at the front of a text, in microseconds, and its width. -/
def microseconds (cs : List Char) : Nat × Nat :=
  match cs with
  | '.' :: rest =>
    let ds := rest.takeWhile Char.isDigit
    let kept := ds.take 6
    if ds.isEmpty then (0, 0) else (valueOf 10 kept * Double.powerOfTen (6 - kept.length), 1 + ds.length)
  | _ => (0, 0)

/-- The hours and minutes at the front of a text, with a colon between them. -/
def clock? (cs : List Char) : Option (Nat × Nat) := do
  let hour ← fixed? 2 cs
  let minute ← fixed? 2 (cs.drop 3)
  if cs[2]? = some ':' && hour < 24 && minute < 60 then some (hour, minute) else none

/-- The time at the front of a text, and its width. -/
def time? (cs : List Char) : Option (Time × Nat) := do
  let (hour, minute) ← clock? cs
  let second ← fixed? 2 (cs.drop 6)
  if cs[5]? = some ':' && second < 60 then
    let (micros, width) := microseconds (cs.drop 8)
    some (⟨hour, minute, second, micros⟩, 8 + width)
  else none

/-- The date at the front of a text. -/
def date? (cs : List Char) : Option Date := do
  let year ← fixed? 4 cs
  let month ← fixed? 2 (cs.drop 5)
  let day ← fixed? 2 (cs.drop 8)
  if cs[4]? = some '-' && cs[7]? = some '-' && 1 ≤ month && month ≤ 12 && 1 ≤ day && day ≤ 31 then
    some ⟨year, month, day⟩
  else none

/-- The offset from universal time at the front of a text, in minutes, and its width. -/
def offset (cs : List Char) : Option Int × Nat :=
  match cs with
  | sign :: rest =>
    if sign = 'Z' || sign = 'z' then (some 0, 1)
    else if sign = '+' || sign = '-' then
      match clock? rest with
      | some (hour, minute) =>
        let minutes : Int := 60 * hour + minute
        (some (if sign = '-' then -minutes else minutes), 6)
      | none => (none, 0)
    else (none, 0)
  | [] => (none, 0)

/-- Reads a date, with a time behind it or not. -/
def dateTime? (s : Cursor) : Option (Except Fault (Value × Cursor)) := do
  let day ← date? s.rest
  let behind := s.rest.drop 10
  let timed := match behind with
    | mark :: rest => if mark = 'T' || mark = 't' || mark = ' ' then time? rest else none
    | [] => none
  if !day.isValid then some (failAt s .date)
  else match timed with
    | some (time, width) =>
      let (offset, zone) := offset (behind.drop (1 + width))
      some (.ok (.dateTime day time offset, s.skip (11 + width + zone)))
    | none => some (.ok (.date day, s.skip 10))

/-- Words that stand for numbers that are not finite. -/
def specialNumbers : List (List Char × Double) :=
  [("inf".toList, .infinity false), ("nan".toList, .notANumber), ("-inf".toList, .infinity true),
   ("+inf".toList, .infinity false), ("-nan".toList, .notANumber), ("+nan".toList, .notANumber)]

/-- Reads a value that is neither a string, a word nor a container. -/
def scalar : Reads Value := fun s =>
  match dateTime? s with
  | some result => result
  | none =>
    match time? s.rest with
    | some (time, width) => .ok (.time time, s.skip width)
    | none =>
      match radixInteger? s with
      | some result => .ok result
      | none =>
        match decimal? s with
        | some result => result
        | none =>
          match specialNumbers.find? fun (word, _) => s.startsWith word with
          | some (word, x) => .ok (.real x, s.skip word.length)
          | none => failAt s .value

/-! ## Values -/

/-- The room that arrays and inline tables inside of others may take up. -/
def nestingRoom : Nat := 984

/-- The room that an array takes up. -/
def arrayRoom : Nat := 2

/-- The room that an inline table takes up. -/
def inlineRoom : Nat := 3

/-- An inline table under construction, with the paths whose contents are complete. -/
structure Inline where
  entries : Table := []
  complete : List Path := []

/-- Adds a pair to an inline table; the pair ends at the cursor. -/
def Inline.add (t : Inline) (path : Path) (value : Value) (s : Cursor) : Except Fault Inline :=
  let stem := path.getLast?.getD ""
  if t.complete.any (·.isPrefixOf path) then failAt s (.immutable path)
  else
    match changeAt false some path.dropLast t.entries with
    | none => failAt s .overwritten
    | some _ =>
      let put (nest : Table) : Option Table :=
        if (valueAt? stem nest).isSome then none else some (setEntry stem value nest)
      match changeAt false put path.dropLast t.entries with
      | none => failAt s (.duplicate stem)
      | some entries =>
        .ok ⟨entries, if value.isContainer then path :: t.complete else t.complete⟩

mutual

/-- Reads a value. Each level of `fuel` allows one value, item or pair more; `room` is what is left for
arrays and inline tables inside of others. -/
def readValue (fuel room : Nat) (s : Cursor) : Except Fault (Value × Cursor) :=
  match fuel with
  | 0 => failAt s .value
  | fuel + 1 =>
    match s.head? with
    | some '"' => do let (text, next) ← stringValue '"' s; return (.text text, next)
    | some '\'' => do let (text, next) ← stringValue '\'' s; return (.text text, next)
    | some '[' =>
      if room < arrayRoom then .error .tooDeep
      else do
        let next ← filler (s.skip 1)
        if next.head? = some ']' then return (.array [], next.skip 1)
        else readItems fuel (room - arrayRoom) [] next
    | some '\x7b' =>
      if room < inlineRoom then .error .tooDeep
      else
        let next := skipBlanks (s.skip 1)
        if next.head? = some '\x7d' then .ok (.table [], next.skip 1)
        else readPairs fuel (room - inlineRoom) {} next
    | _ =>
      if s.startsWith "true".toList then .ok (.bool true, s.skip 4)
      else if s.startsWith "false".toList then .ok (.bool false, s.skip 5)
      else scalar s

/-- Reads the items of an array, of which there is one more; those so far come reversed. -/
def readItems (fuel room : Nat) (read : List Value) (s : Cursor) : Except Fault (Value × Cursor) :=
  match fuel with
  | 0 => failAt s .value
  | fuel + 1 => do
    let (value, next) ← readValue fuel room s
    let next ← filler next
    match next.head? with
    | some ']' => return (.array (value :: read).reverse, next.skip 1)
    | some ',' =>
      let next ← filler (next.skip 1)
      if next.head? = some ']' then return (.array (value :: read).reverse, next.skip 1)
      else readItems fuel room (value :: read) next
    | _ => failAt next .unclosedArray

/-- Reads a key, an equals sign and a value. -/
def readPair (fuel room : Nat) (s : Cursor) : Except Fault ((Path × Value) × Cursor) :=
  match fuel with
  | 0 => failAt s .value
  | fuel + 1 => do
    let (path, next) ← key s
    if next.head? ≠ some '=' then failAt next .equalsSign
    else
      let (value, next) ← readValue fuel room (skipBlanks (next.skip 1))
      return ((path, value), next)

/-- Reads the pairs of an inline table, of which there is one more. -/
def readPairs (fuel room : Nat) (t : Inline) (s : Cursor) : Except Fault (Value × Cursor) :=
  match fuel with
  | 0 => failAt s .value
  | fuel + 1 => do
    let ((path, value), next) ← readPair fuel room s
    let t ← t.add path value next
    let next := skipBlanks next
    match next.head? with
    | some '\x7d' => return (.table t.entries, next.skip 1)
    | some ',' => readPairs fuel room t (skipBlanks (next.skip 1))
    | _ => failAt next .unclosedTable

end

/-! ## Statements -/

/-- Proper prefixes of a path behind a header, shortest first. -/
def innerPaths (header path : Path) : List Path :=
  (List.range (path.length - 1)).map fun i => header ++ path.take (i + 1)

/-- Marks the tables that a dotted key passes through. -/
def passThrough (s : Cursor) : List Path → Document → Except Fault Document
  | [], d => .ok d
  | path :: rest, d =>
    if d.isDeclared path then failAt s (.redefined path)
    else passThrough s rest { d with pending := path :: d.pending }

/-- Adds a pair below a header; the pair ends at the cursor. -/
def Document.add (d : Document) (header path : Path) (value : Value) (s : Cursor) :
    Except Fault Document := do
  let parent := header ++ path.dropLast
  let stem := path.getLast?.getD ""
  let d ← passThrough s (innerPaths header path) d
  if d.isComplete parent then failAt s (.immutable parent)
  else
    let put (nest : Table) : Option Table :=
      if (valueAt? stem nest).isSome then none else some (setEntry stem value nest)
    match changeAt true put parent d.root with
    | none => failAt s .overwritten
    | some root =>
      let complete := if value.isContainer then (header ++ path) :: d.complete else d.complete
      return { d with root := root, complete := complete }

/-- Declares a table by its path, which ends at the cursor. -/
def Document.declare (d : Document) (path : Path) (s : Cursor) : Except Fault Document :=
  if d.isDeclared path || d.isComplete path then failAt s (.declaredTwice path)
  else
    match changeAt true some path d.root with
    | none => failAt s .overwritten
    | some root => .ok { d with root := root, declared := path :: d.declared }

/-- Adds a table to an array of tables by its path, which ends at the cursor. -/
def Document.append (d : Document) (path : Path) (s : Cursor) : Except Fault Document :=
  if d.isComplete path then failAt s (.immutable path)
  else
    let stem := path.getLast?.getD ""
    let add (nest : Table) : Option Table :=
      match valueAt? stem nest with
      | none => some (setEntry stem (.array [.table []]) nest)
      | some (.array items) => some (setEntry stem (.array (items ++ [.table []])) nest)
      | some _ => none
    let d := d.forget path
    match changeAt true add path.dropLast d.root with
    | none => failAt s .overwritten
    | some root => .ok { d with root := root, declared := path :: d.declared }

/-- Reads the declaration of a table or of an item of an array of tables. -/
def readHeader (d : Document) (s : Cursor) : Except Fault (Document × Path × Cursor) := do
  let d := d.settle
  if s.startsWith ['[', '['] then
    let (path, next) ← key (skipBlanks (s.skip 2))
    let d ← d.append path next
    if next.startsWith [']', ']'] then return (d, path, next.skip 2) else failAt next .arrayEnd
  else
    let (path, next) ← key (skipBlanks (s.skip 1))
    let d ← d.declare path next
    if next.head? = some ']' then return (d, path, next.skip 1) else failAt next .tableEnd

/-- Reads statements below a header up to the end of the text. -/
def readStatements (fuel : Nat) (d : Document) (header : Path) (s : Cursor) :
    Except Fault Document :=
  match fuel with
  | 0 => .ok d
  | fuel + 1 =>
    let s := skipBlanks s
    match s.head? with
    | none => .ok d
    | some '\n' => readStatements fuel d header (s.skip 1)
    | some c => do
      let (d, header, next) ←
        if isBareKey c || c = '"' || c = '\'' then do
          let ((path, value), next) ← readPair (2 * s.rest.length + 2) nestingRoom s
          pure ((← d.add header path value next), header, skipBlanks next)
        else if c = '[' then do
          let (d, header, next) ← readHeader d s
          pure (d, header, skipBlanks next)
        else if c = '#' then pure (d, header, s)
        else failAt s .statement
      let next ← skipComment next
      match next.head? with
      | none => return d
      | some '\n' => readStatements fuel d header (next.skip 1)
      | some _ => failAt next .lineEnd

/-- The top table of a document. -/
def read (text : List Char) : Except Fault Table := do
  let cs := unifyPairs text
  return (← readStatements (cs.length + 1) {} [] (.start cs)).root

end Localize.Toml
