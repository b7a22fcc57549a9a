/-
  What string literals denote: their prefix and quotes, their escapes, and the parts of formatted
  literals. A replacement field keeps the characters of its expression with the place where they
  begin; reading them is left to the grammar.
-/
import Localize.Syntax.Lexer
import Localize.Text.Hex

namespace Localize.Syntax

open Localize.Text

/-- A literal between its quotes, with what its prefix says. -/
structure Quotation where
  raw : Bool
  bytes : Bool
  formatted : Bool
  body : List Char
  /-- Where the body begins. -/
  start : Point

/-- Takes the prefix and the quotes off a literal that begins at a place. -/
def Quotation.of (start : Point) (text : List Char) : Quotation :=
  let (marks, quoted) := cut (!isQuote ·) text
  let has (c : Char) : Bool := marks.any (·.toLower = c)
  let width := match quoted with
    | a :: b :: c :: _ => if a = b && b = c then 3 else 1
    | _ => 1
  { raw := has 'r', bytes := has 'b', formatted := has 'f'
    body := (quoted.drop width).take (quoted.length - 2 * width)
    start := start.after (marks ++ quoted.take width) }

/-- An octal digit. -/
def isOctal (c : Char) : Bool := '0' ≤ c && c ≤ '7'

/-- What a one-letter escape stands for. -/
def escaped? (c : Char) : Option Char :=
  match c with
  | '\\' => some '\\'
  | '\'' => some '\''
  | '"' => some '"'
  | 'a' => some (Char.ofNat 7)
  | 'b' => some (Char.ofNat 8)
  | 'f' => some (Char.ofNat 12)
  | 'n' => some '\n'
  | 'r' => some '\r'
  | 't' => some '\t'
  | 'v' => some (Char.ofNat 11)
  | _ => none

/-- Where the reading of escapes stands: between characters, behind a backslash, inside an octal
escape with a value and the digits it may still take, or inside a hexadecimal escape with a value
and the digits it still needs. -/
inductive EscapeState where
  | plain
  | slash
  | octal (value left : Nat)
  | hex (value left : Nat)

/-- Replaces escapes by what they denote; `out` holds the characters so far, reversed. Unknown
escapes stand for themselves. Escapes by name are not known, and an escape that lacks digits is
refused. -/
def unescapeFrom (state : EscapeState) (out : List Char) : List Char → Option (List Char)
  | [] =>
    match state with
    | .plain => some out.reverse
    | .slash => some ('\\' :: out).reverse
    | .octal value _ => some (charOf value :: out).reverse
    | .hex _ _ => none
  | c :: rest =>
    let plain (out : List Char) : Option (List Char) :=
      if c = '\\' then unescapeFrom .slash out rest else unescapeFrom .plain (c :: out) rest
    match state with
    | .plain => plain out
    | .octal value left =>
      if left > 0 && isOctal c then unescapeFrom (.octal (value * 8 + (c.toNat - 48)) (left - 1)) out rest
      else plain (charOf value :: out)
    | .hex value left =>
      match hexValue? c with
      | none => none
      | some d =>
        let value := 16 * value + d
        if left > 1 then unescapeFrom (.hex value (left - 1)) out rest
        else if value > 0x10ffff then none
        else unescapeFrom .plain (charOf value :: out) rest
    | .slash =>
      if c = '\n' then unescapeFrom .plain out rest
      else if c = 'x' then unescapeFrom (.hex 0 2) out rest
      else if c = 'u' then unescapeFrom (.hex 0 4) out rest
      else if c = 'U' then unescapeFrom (.hex 0 8) out rest
      else if c = 'N' then none
      else if isOctal c then unescapeFrom (.octal (c.toNat - 48) 2) out rest
      else match escaped? c with
        | some e => unescapeFrom .plain (e :: out) rest
        | none => unescapeFrom .plain (c :: '\\' :: out) rest

/-- The characters that the body of a literal denotes. -/
def unescape (cs : List Char) : Option (List Char) := unescapeFrom .plain [] cs

/-- Whether the body of a bytes literal has only ASCII characters and whole escapes. -/
def isBytesBody : List Char → Bool
  | [] => true
  | '\\' :: 'x' :: a :: b :: rest => (hexNumber? [a, b]).isSome && isBytesBody rest
  | '\\' :: 'x' :: _ => false
  | '\\' :: c :: rest => c.toNat < 128 && isBytesBody rest
  | c :: rest => c.toNat < 128 && isBytesBody rest

/-! ## Formatted literals -/

/-- A part of a formatted literal. -/
inductive Piece where
  | chars (cs : List Char)
  /-- A replacement field: its expression and where that begins, the text that shows the expression
  if the field has an equals sign, the conversion, and the format. -/
  | field (expression : List Char) (start : Point) (shown : Option (List Char))
      (conversion : Option Char) (format : Option (List Piece))

/-- The place behind a character. -/
def Point.afterChar (p : Point) (c : Char) : Point := if c = '\n' then p.nextLine else p.after [c]

/-- The place behind characters that may hold line feeds. -/
def Point.afterChars (p : Point) (cs : List Char) : Point := cs.foldl Point.afterChar p

/-- Reads characters up to a brace that means something. At the top a doubled brace stands for
itself, and a single closing one is refused. -/
def scanChars (raw top : Bool) (p : Point) (taken : List Char) :
    List Char → Option (List Char × List Char × Point)
  | [] => some (taken.reverse, [], p)
  | [c] => if c = '\x7d' && top then none
    else if c = '\x7b' || c = '\x7d' then some (taken.reverse, [c], p)
    else some ((c :: taken).reverse, [], p.afterChar c)
  | c :: d :: rest =>
    if c = '\x7b' || c = '\x7d' then
      if top && d = c then scanChars raw top (p.after [c, d]) (c :: taken) rest
      else if top && c = '\x7d' then none
      else some (taken.reverse, c :: d :: rest, p)
    else if c = '\\' && !raw && !(d = '\x7b' || d = '\x7d') then
      scanChars raw top ((p.after [c]).afterChar d) (d :: c :: taken) rest
    else scanChars raw top (p.afterChar c) (c :: taken) (d :: rest)

/-- A character that ends an expression outside of brackets and strings. -/
def endsExpression (c : Char) : Bool := c = '!' || c = ':' || c = '\x7d' || c = '='

/-- A comparison whose second character is an equals sign. -/
def isComparison (c d : Char) : Bool := (c = '!' || c = '=' || c = '<' || c = '>') && d = '='

/-- Reads the expression of a field up to the character that ends it. `quote` is the string that
stands open, with whether it is triple-quoted, and `open_` holds the open brackets. Backslashes
and comments are refused. -/
def scanExpression (fuel : Nat) (quote : Option (Char × Bool)) (openBrackets taken : List Char)
    (cs : List Char) : Option (List Char × List Char) :=
  match fuel, cs with
  | 0, _ => none
  | _, [] => none
  | fuel + 1, c :: rest =>
    let triple := rest.take 2 = [c, c]
    if c = '\\' then none
    else match quote with
    | some (q, isTriple) =>
      if c ≠ q then scanExpression fuel quote openBrackets (c :: taken) rest
      else if !isTriple then scanExpression fuel none openBrackets (c :: taken) rest
      else if triple then scanExpression fuel none openBrackets (c :: c :: c :: taken) (rest.drop 2)
      else scanExpression fuel quote openBrackets (c :: taken) rest
    | none =>
      if isQuote c then
        if triple then
          scanExpression fuel (some (c, true)) openBrackets (c :: c :: c :: taken) (rest.drop 2)
        else scanExpression fuel (some (c, false)) openBrackets (c :: taken) rest
      else if opens c then
        if openBrackets.length ≥ bracketLimit then none
        else scanExpression fuel none (c :: openBrackets) (c :: taken) rest
      else if c = '#' then none
      else
        match openBrackets with
        | [] =>
          match rest with
          | d :: rest' =>
            if isComparison c d then scanExpression fuel none [] (d :: c :: taken) rest'
            else if endsExpression c then some (taken.reverse, cs)
            else if closes c then none
            else scanExpression fuel none [] (c :: taken) rest
          | [] => if endsExpression c then some (taken.reverse, cs) else none
        | b :: outer =>
          if closes c then
            if closing b = c then scanExpression fuel none outer (c :: taken) rest else none
          else scanExpression fuel none openBrackets (c :: taken) rest

/-- Blanks that leave an expression empty. -/
def isFieldBlank (c : Char) : Bool := c = ' ' || c = '\t' || c = '\n' || c = '\x0c'

/-- ASCII white space behind the equals sign of a field. -/
def isShownBlank (c : Char) : Bool :=
  c = ' ' || c = '\t' || c = '\n' || c = '\r' || c = '\x0b' || c = '\x0c'

mutual

/-- Reads the parts of a literal, or of a format at some level inside of it, which ends in front of
a closing brace. -/
def scanPieces (fuel : Nat) (raw : Bool) (level : Nat) (p : Point) (cs : List Char) :
    Option (List Piece × List Char × Point) :=
  match fuel with
  | 0 => none
  | fuel + 1 => do
    let (taken, rest, p) ← scanChars raw (level = 0) p [] cs
    let chars := if taken.isEmpty then [] else [Piece.chars taken]
    match rest with
    | [] => if level = 0 then some (chars, [], p) else none
    | '\x7d' :: _ => if level = 0 then none else some (chars, rest, p)
    | _ :: inner =>
      let (field, rest, p) ← scanField fuel raw level (p.after ['\x7b']) inner
      let (more, rest, p) ← scanPieces fuel raw level p rest
      some (chars ++ field :: more, rest, p)

/-- Reads a field behind its opening brace. -/
def scanField (fuel : Nat) (raw : Bool) (level : Nat) (p : Point) (cs : List Char) :
    Option (Piece × List Char × Point) :=
  match fuel with
  | 0 => none
  | fuel + 1 =>
    if level ≥ 2 then none
    else do
      let start := p
      let (expression, rest) ← scanExpression (cs.length + 1) none [] [] cs
      if expression.all isFieldBlank then none
      let p := p.afterChars expression
      let (shown, rest, p) := match rest with
        | '=' :: tail =>
          let (blanks, tail) := cut isShownBlank tail
          (some (expression ++ '=' :: blanks), tail, (p.after ['=']).afterChars blanks)
        | _ => (none, rest, p)
      let (conversion, rest, p) ← match rest with
        | '!' :: c :: tail =>
          if c = 's' || c = 'r' || c = 'a' then some (some c, tail, p.after ['!', c]) else none
        | ['!'] => none
        | _ => some (none, rest, p)
      let (format, rest, p) ← match rest with
        | ':' :: tail => do
          let (pieces, rest, p) ← scanPieces fuel raw (level + 1) (p.after [':']) tail
          some (some pieces, rest, p)
        | _ => some (none, rest, p)
      match rest with
      | '\x7d' :: rest =>
        let conversion := if shown.isSome && conversion.isNone && format.isNone then some 'r'
          else conversion
        some (.field expression start shown conversion format, rest, p.after ['\x7d'])
      | _ => none

end

/-- The parts of a formatted literal. -/
def Quotation.pieces (q : Quotation) : Option (List Piece) :=
  (scanPieces (2 * q.body.length + 2) q.raw 0 q.start q.body).map (·.1)

end Localize.Syntax
