/-
  JSON reader: a text is a value between blanks, or a located fault. It takes the three words for
  numbers that are not finite, and gives a repeated key its last value at its first place.
-/
import Localize.Number.Integer
import Localize.Text.Cursor
import Localize.Value

namespace Localize.Json

open Localize.Text

/-- Why a text is not read. The positions count characters from the start of the text. -/
inductive Fault where
  | byteOrderMark
  | value (position : Nat)
  | propertyName (position : Nat)
  | colon (position : Nat)
  | comma (position : Nat)
  | extraData (position : Nat)
  | unterminatedString (position : Nat)
  | controlCharacter (position : Nat)
  | escape (position : Nat)
  | unicodeEscape (position : Nat)
  /-- An integer of more digits than numbers may have. -/
  | tooManyDigits (count : Nat)
deriving DecidableEq, Repr

namespace Fault

def position : Fault → Nat
  | byteOrderMark => 0
  | value p | propertyName p | colon p | comma p | extraData p | unterminatedString p
  | controlCharacter p | escape p | unicodeEscape p => p
  | tooManyDigits _ => 0

/-- The wording of a fault, without its place. -/
def cause : Fault → String
  | byteOrderMark => "Unexpected UTF-8 BOM (decode using utf-8-sig)"
  | value _ => "Expecting value"
  | propertyName _ => "Expecting property name enclosed in double quotes"
  | colon _ => "Expecting ':' delimiter"
  | comma _ => "Expecting ',' delimiter"
  | extraData _ => "Extra data"
  | unterminatedString _ => "Unterminated string starting at"
  | controlCharacter _ => "Invalid control character at"
  | escape _ => "Invalid \\escape"
  | unicodeEscape _ => "Invalid \\uXXXX escape"
  | tooManyDigits count => (IntegerFault.tooManyDigits count).message

/-- The wording of a fault with its place in the text. -/
def message (text : String) (fault : Fault) : String :=
  match fault with
  | tooManyDigits _ => fault.cause
  | _ =>
    -- A fault at the end of the text may lie behind the last character.
    let cs := text.toList
    let (line, column) := place cs fault.position
    let column := column + (fault.position - cs.length)
    s!"{fault.cause}: line {line} column {column} (char {fault.position})"

end Fault

def isBlank (c : Char) : Bool := c = ' ' || c = '\t' || c = '\n' || c = '\r'

/-- Steps over the blanks at a cursor. -/
def skipBlanks (s : Cursor) : Cursor := s.skipWhile isBlank

/-- The first half of a code point above `0xffff`. -/
def isHighHalf (n : Nat) : Bool := 0xd800 ≤ n ∧ n < 0xdc00

/-- The second half of a code point above `0xffff`. -/
def isLowHalf (n : Nat) : Bool := 0xdc00 ≤ n ∧ n < 0xe000

/-- The character whose code point is given in two halves. -/
def ofHalves (high low : Nat) : Char :=
  Char.ofNat (0x10000 + (high - 0xd800) * 0x400 + (low - 0xdc00))

/-- The character that a one-letter escape stands for. -/
def letterEscape? (c : Char) : Option Char :=
  match c with
  | '"' => some '"'
  | '\\' => some '\\'
  | '/' => some '/'
  | 'b' => some (Char.ofNat 8)
  | 'f' => some (Char.ofNat 12)
  | 'n' => some '\n'
  | 'r' => some '\r'
  | 't' => some '\t'
  | _ => none

/-- Adds a half that stayed alone to the characters read so far. -/
def withHalf (half : Option Nat) (read : List Char) : List Char :=
  match half with
  | some n => charOf n :: read
  | none => read

/-- Reads a string behind its opening quote, which stood at `start`. The characters read so far
come reversed; `half` is a first half that the escape just read has left behind. -/
def readString (start position : Nat) (half : Option Nat) (read : List Char) :
    List Char → Except Fault (List Char × Cursor)
  | [] => .error (.unterminatedString start)
  | '"' :: rest => .ok ((withHalf half read).reverse, ⟨position + 1, rest⟩)
  | '\\' :: 'u' :: a :: b :: c :: d :: rest =>
    -- A text that ends behind the digits lacks its quote, and the escape is blamed.
    match if rest.isEmpty then none else hexNumber? [a, b, c, d] with
    | none => .error (.unicodeEscape (position + 1))
    | some n =>
      match half with
      | some high =>
        if isLowHalf n then readString start (position + 6) none (ofHalves high n :: read) rest
        else if isHighHalf n then readString start (position + 6) (some n) (charOf high :: read) rest
        else readString start (position + 6) none (charOf n :: charOf high :: read) rest
      | none =>
        if isHighHalf n then readString start (position + 6) (some n) read rest
        else readString start (position + 6) none (charOf n :: read) rest
  | '\\' :: 'u' :: _ => .error (.unicodeEscape (position + 1))
  | ['\\'] => .error (.unterminatedString start)
  | '\\' :: c :: rest =>
    match letterEscape? c with
    | none => .error (.escape position)
    | some e => readString start (position + 2) none (e :: withHalf half read) rest
  | c :: rest =>
    if c.toNat < 32 then .error (.controlCharacter position)
    else readString start (position + 1) none (c :: withHalf half read) rest

/-- The digits at the front of a text, and the rest. -/
def digits (cs : List Char) : List Char × List Char := cs.span Char.isDigit

/-- The number that ASCII digits denote. -/
def ofDigits (ds : List Char) : Nat := ds.foldl (fun n d => 10 * n + (d.toNat - 48)) 0

/-- Reads a number. A fraction needs a digit behind its point and an exponent needs a digit; what
lacks one ends before it. -/
def readNumber (s : Cursor) : Except Fault (Value × Cursor) :=
  let (negative, body) := match s.rest with
    | '-' :: rest => (true, rest)
    | rest => (false, rest)
  let (whole, afterWhole) := match body with
    | '0' :: rest => (['0'], rest)
    | rest => digits rest
  if whole.isEmpty then .error (.value s.position)
  else
    let (fraction, afterFraction) : List Char × List Char := match afterWhole with
      | '.' :: rest => let (ds, rest') := digits rest; if ds.isEmpty then ([], afterWhole) else (ds, rest')
      | rest => ([], rest)
    let exponentAt (rest : List Char) : Option (Int × List Char) :=
      let (sign, rest) : Int × List Char := match rest with
        | '+' :: rest => (1, rest)
        | '-' :: rest => (-1, rest)
        | rest => (1, rest)
      let (ds, rest) := digits rest
      if ds.isEmpty then none else some (sign * ofDigits ds, rest)
    let exponent := match afterFraction with
      | 'e' :: rest => exponentAt rest
      | 'E' :: rest => exponentAt rest
      | _ => none
    let final := match exponent with
      | some (_, rest) => rest
      | none => afterFraction
    let cursor : Cursor := ⟨s.position + (s.rest.length - final.length), final⟩
    if fraction.isEmpty && exponent.isNone then
      if whole.length > digitLimit then .error (.tooManyDigits whole.length)
      else
        let n : Int := ofDigits whole
        .ok (.int (if negative then -n else n), cursor)
    else
      let power : Int := (exponent.map (·.1)).getD 0 - (fraction.length : Int)
      .ok (.real (Double.ofDecimal negative (ofDigits (whole ++ fraction)) power), cursor)

/-- The words that stand for values, with what they stand for. -/
def words : List (List Char × Value) :=
  [("null".toList, .null), ("true".toList, .bool true), ("false".toList, .bool false),
   ("NaN".toList, .real Double.notANumber), ("Infinity".toList, .real (Double.infinity false)),
   ("-Infinity".toList, .real (Double.infinity true))]

mutual

/-- Reads one value at a cursor. Each level of `fuel` allows one value, item or entry more. -/
def readValue (fuel : Nat) (s : Cursor) : Except Fault (Value × Cursor) :=
  match fuel with
  | 0 => .error (.value s.position)
  | fuel + 1 =>
    match s.rest with
    | [] => .error (.value s.position)
    | '"' :: rest => do
      let (cs, next) ← readString s.position (s.position + 1) none [] rest
      return (.text (String.ofList cs), next)
    | '\x7b' :: rest => do
      let next := skipBlanks ⟨s.position + 1, rest⟩
      match next.rest with
      | '\x7d' :: _ => return (.map [], next.skip 1)
      | _ => readEntries fuel [] next
    | '[' :: rest => do
      let next := skipBlanks ⟨s.position + 1, rest⟩
      match next.rest with
      | ']' :: _ => return (.list [], next.skip 1)
      | _ => readItems fuel [] next
    | cs =>
      match words.find? fun (word, _) => word.isPrefixOf cs with
      | some (word, value) => .ok (value, s.skip word.length)
      | none => readNumber s

/-- Reads the items of a list, of which there is one more. -/
def readItems (fuel : Nat) (read : List Value) (s : Cursor) : Except Fault (Value × Cursor) :=
  match fuel with
  | 0 => .error (.value s.position)
  | fuel + 1 => do
    let (value, next) ← readValue fuel s
    let next := skipBlanks next
    match next.rest with
    | ']' :: _ => return (.list (value :: read).reverse, next.skip 1)
    | ',' :: _ => readItems fuel (value :: read) (skipBlanks (next.skip 1))
    | _ => .error (.comma next.position)

/-- Reads the entries of a map, of which there is one more. -/
def readEntries (fuel : Nat) (read : List (String × Value)) (s : Cursor) :
    Except Fault (Value × Cursor) :=
  match fuel with
  | 0 => .error (.value s.position)
  | fuel + 1 =>
    match s.rest with
    | '"' :: rest => do
      let (key, next) ← readString s.position (s.position + 1) none [] rest
      let next := skipBlanks next
      match next.rest with
      | ':' :: _ =>
        let (value, next) ← readValue fuel (skipBlanks (next.skip 1))
        let next := skipBlanks next
        let read := setEntry (String.ofList key) value read
        match next.rest with
        | '\x7d' :: _ => return (.map read, next.skip 1)
        | ',' :: _ => readEntries fuel read (skipBlanks (next.skip 1))
        | _ => .error (.comma next.position)
      | _ => .error (.colon next.position)
    | _ => .error (.propertyName s.position)

end

/-- Reads a text that holds one value. -/
def read (text : String) : Except Fault Value := do
  let cs := text.toList
  if cs.head? = some '\ufeff' then throw .byteOrderMark
  let (value, next) ← readValue (2 * cs.length + 2) (skipBlanks (.start cs))
  let next := skipBlanks next
  if next.rest.isEmpty then return value else throw (.extraData next.position)

end Localize.Json
