/-
  From source text to tokens. Line breaks of every style count as line feeds. Indentation becomes
  tokens of its own, except between brackets, where line breaks are blanks. Reading stops at the
  first character that begins no token; the tokens before it are kept.
-/
import Localize.Syntax.Token
import Localize.Text.Identifier
import Localize.Text.Printable

namespace Localize.Syntax

open Localize.Text

/-- Replaces each line terminator by a line feed. -/
def unifyNewlines : List Char → List Char
  | [] => []
  | '\r' :: '\n' :: rest => '\n' :: unifyNewlines rest
  | c :: rest => (if c = '\r' then '\n' else c) :: unifyNewlines rest

/-- Whether a text ends with a carriage return and a line feed. -/
def endsWithPair (text : List Char) : Bool := text.reverse.take 2 = ['\n', '\r']

/-- The lines of a module: terminators unified, and the last line terminated. Behind a final pair
of carriage return and line feed one more line is opened. -/
def moduleText (text : List Char) : List Char :=
  let cs := unifyNewlines text
  if cs.getLast? = some '\n' && !endsWithPair text then cs else cs ++ ['\n']

/-- A character that can begin a word; above ASCII the word is checked as a whole. -/
def startsWord (c : Char) : Bool := c.isAlpha || c = '_' || c.toNat ≥ 128

/-- A character that a word can go on with. -/
def continuesWord (c : Char) : Bool := c.isAlphanum || c = '_' || c.toNat ≥ 128

/-- The characters at the front that satisfy a test, and the rest. -/
def cut (test : Char → Bool) (cs : List Char) : List Char × List Char := cs.span test

/-! ## Numbers -/

/-- Digits with single underscores between them, in front of other characters. An underscore that
no digit follows is refused. -/
def underscored (isDigit : Char → Bool) (taken : List Char) :
    List Char → Option (List Char × List Char)
  | [] => some (taken.reverse, [])
  | '_' :: rest =>
    match rest with
    | d :: _ => if isDigit d then underscored isDigit ('_' :: taken) rest else none
    | [] => none
  | c :: rest =>
    if isDigit c then underscored isDigit (c :: taken) rest else some (taken.reverse, c :: rest)

/-- Keywords that may follow a number without a blank. -/
def keywordsAfterNumber : List (List Char) :=
  ["and", "else", "for", "if", "in", "is", "or", "not"].map String.toList

/-- Whether a number can end in front of these characters. -/
def endsNumber (rest : List Char) : Bool :=
  match rest with
  | [] => true
  | c :: _ => !continuesWord c || c.toNat ≥ 128 || keywordsAfterNumber.any (·.isPrefixOf rest)

/-- A number that can end before the rest. -/
def ended (taken rest : List Char) : Option (List Char × List Char) :=
  if endsNumber rest then some (taken, rest) else none

/-- A digit of a radix up to sixteen. -/
def isRadixDigit (radix : Nat) (c : Char) : Bool :=
  if radix = 16 then c.isDigit || ('a' ≤ c && c ≤ 'f') || ('A' ≤ c && c ≤ 'F')
  else c.isDigit && c.toNat - 48 < radix

/-- The digits behind the mark of a radix. -/
def radixNumber (mark : List Char) (radix : Nat) (rest : List Char) :
    Option (List Char × List Char) := do
  let (ds, rest) ← underscored (isRadixDigit radix) [] rest
  if ds.isEmpty then none else ended (mark ++ ds) rest

/-- The imaginary mark, if any, and the end of a number. -/
def imaginaryEnd (taken rest : List Char) : Option (List Char × List Char) :=
  match rest with
  | 'j' :: rest => ended (taken ++ ['j']) rest
  | 'J' :: rest => ended (taken ++ ['J']) rest
  | rest => ended taken rest

/-- The exponent, if any, and the end of a number. A letter that no digit follows belongs to the
next word. -/
def exponentEnd (taken rest : List Char) : Option (List Char × List Char) :=
  match rest with
  | [] => some (taken, [])
  | e :: tail =>
    if e = 'e' || e = 'E' then
      match tail with
      | s :: d :: _ =>
        if s = '+' || s = '-' then
          if d.isDigit then do
            let (ds, rest) ← underscored Char.isDigit [] (tail.drop 1)
            imaginaryEnd (taken ++ e :: s :: ds) rest
          else none
        else if s.isDigit then do
          let (ds, rest) ← underscored Char.isDigit [] tail
          imaginaryEnd (taken ++ e :: ds) rest
        else ended taken rest
      | [d] =>
        if d.isDigit then some (taken ++ [e, d], [])
        else if d = '+' || d = '-' then none
        else ended taken rest
      | [] => ended taken rest
    else imaginaryEnd taken rest

/-- The digits behind a decimal point, if any, and the end of a number. -/
def fractionEnd (taken rest : List Char) : Option (List Char × List Char) :=
  match rest with
  | d :: _ =>
    if d.isDigit then do
      let (ds, rest) ← underscored Char.isDigit [] rest
      exponentEnd (taken ++ ds) rest
    else exponentEnd taken rest
  | [] => some (taken, [])

/-- Whether digits may stand for an integer: a leading zero stands only before further zeros. -/
def isInteger (ds : List Char) : Bool :=
  ds.head? != some '0' || ds.all fun c => c = '0' || c = '_'

/-- A number in decimal notation. Digits that stand for no integer need a point, an exponent or an
imaginary mark behind them, or a word that begins like an exponent. -/
def decimalNumber (cs : List Char) : Option (List Char × List Char) := do
  let (ds, rest) ← underscored Char.isDigit [] cs
  match rest with
  | '.' :: tail => fractionEnd (ds ++ ['.']) tail
  | c :: _ =>
    if c = 'e' || c = 'E' || c = 'j' || c = 'J' then exponentEnd ds rest
    else if isInteger ds then ended ds rest
    else none
  | [] => if isInteger ds then some (ds, []) else none

/-- The number at the front of a text that begins with a digit, or with a point and a digit. -/
def scanNumber (cs : List Char) : Option (List Char × List Char) :=
  match cs with
  | '.' :: rest => fractionEnd ['.'] rest
  | '0' :: m :: rest =>
    if m = 'x' || m = 'X' then radixNumber ['0', m] 16 rest
    else if m = 'o' || m = 'O' then radixNumber ['0', m] 8 rest
    else if m = 'b' || m = 'B' then radixNumber ['0', m] 2 rest
    else decimalNumber cs
  | _ => decimalNumber cs

/-! ## String literals -/

/-- The letters that can stand in front of a quote. -/
def literalPrefixes : List String := ["b", "u", "r", "f", "br", "rb", "fr", "rf"]

/-- Whether letters are a string prefix, in either case. -/
def isLiteralPrefix (cs : List Char) : Bool :=
  literalPrefixes.contains (String.ofList (cs.map Char.toLower))

/-- Either quote. -/
def isQuote (c : Char) : Bool := c = '\'' || c = '"'

/-- The prefix of a string literal at the front of a text, with the rest at the opening quote. -/
def literalPrefix? (cs : List Char) : Option (List Char × List Char) :=
  match cs with
  | q :: _ =>
    if isQuote q then some ([], cs)
    else match cs with
      | a :: q :: rest =>
        if isQuote q && isLiteralPrefix [a] then some ([a], q :: rest)
        else match rest with
          | r :: tail =>
            if isQuote r && isLiteralPrefix [a, q] then some ([a, q], r :: tail) else none
          | [] => none
      | _ => none
  | [] => none

/-- Reads up to the closing quotes. `run` counts the quotes just read, `taken` holds what was read,
reversed. The error is the line where the literal is found to be open. -/
def scanQuoted (quote : Char) (triple : Bool) (run : Nat) (p : Point) (taken : List Char) :
    List Char → Except Nat (List Char × List Char × Point)
  | [] => .error (if p.byte = 0 then p.line - 1 else p.line)
  | '\\' :: c :: rest =>
    let p := if c = '\n' then p.nextLine else p.after ['\\', c]
    scanQuoted quote triple 0 p (c :: '\\' :: taken) rest
  | c :: rest =>
    if c = quote then
      if run + 1 = (if triple then 3 else 1) then .ok (c :: taken, rest, p.after [c])
      else scanQuoted quote triple (run + 1) (p.after [c]) (c :: taken) rest
    else if c = '\n' then
      if triple then scanQuoted quote triple 0 p.nextLine (c :: taken) rest else .error p.line
    else scanQuoted quote triple 0 (p.after [c]) (c :: taken) rest

/-- Reads a string literal whose prefix is given, from its opening quote on. -/
def scanLiteral (marks : List Char) (p : Point) (cs : List Char) :
    Except Cause (List Char × List Char × Point) :=
  let p := p.after marks
  let taken := marks.reverse
  match cs with
  | q :: q' :: q'' :: rest =>
    if q' = q && q'' = q then
      match scanQuoted q true 0 (p.after [q, q, q]) (q :: q :: q :: taken) rest with
      | .ok (taken, rest, p) => .ok (taken.reverse, rest, p)
      | .error line => .error (.unterminatedTriple line)
    else match scanQuoted q false 0 (p.after [q]) (q :: taken) (q' :: q'' :: rest) with
      | .ok (taken, rest, p) => .ok (taken.reverse, rest, p)
      | .error line => .error (.unterminated line)
  | q :: rest =>
    match scanQuoted q false 0 (p.after [q]) (q :: taken) rest with
    | .ok (taken, rest, p) => .ok (taken.reverse, rest, p)
    | .error line => .error (.unterminated line)
  | [] => .error (.unterminated p.line)

/-! ## Symbols and words -/

/-- Operators and delimiters of more than one character, the longer ones first. -/
def longSymbols : List (List Char) :=
  ["**=", "//=", ">>=", "<<=", "...", "!=", "%=", "&=", "**", "*=", "+=", "-=", "->", "//", "/=",
   ":=", "<<", "<=", "<>", "==", ">=", ">>", "@=", "^=", "|="].map String.toList

/-- The symbol at the front of a text: the longest of the long ones, or one character. -/
def scanSymbol (c : Char) (rest : List Char) : List Char :=
  (longSymbols.find? (·.isPrefixOf (c :: rest))).getD [c]

/-- The first character of a word that no identifier holds there. -/
def badCharacter? (word : List Char) : Option Char :=
  match word with
  | [] => none
  | c :: rest => if isIdentifierStart c then rest.find? (!isIdentifierPart ·) else some c

/-- How a character that begins no token is blamed. -/
def blame (c : Char) : Cause := if isPrintable c then .invalidCharacter c else .notPrintable c

/-- The bracket that closes another one. -/
def closing (opening : Char) : Char :=
  if opening = '(' then ')' else if opening = '[' then ']' else '\x7d'

/-- A bracket that opens. -/
def opens (c : Char) : Bool := c = '(' || c = '[' || c = '\x7b'

/-- A bracket that closes. -/
def closes (c : Char) : Bool := c = ')' || c = ']' || c = '\x7d'

/-- The most brackets that can be open at once. -/
def bracketLimit : Nat := 200

/-- The most levels of indentation, the outermost one included. -/
def indentLimit : Nat := 100

/-! ## The reading loop -/

/-- The state of reading: what is left and where it stands, where the line before ended, the open
levels of indentation (each as its width with tabs of eight and with tabs of one, innermost first),
the open brackets, the lines that a backslash joins to the one before, and the tokens read so far,
reversed. -/
structure Reading where
  rest : List Char
  point : Point
  lineEnd : Point
  indents : List (Nat × Nat)
  brackets : List (Char × Point)
  joined : List Nat
  tokens : List Token

/-- The tokens of a source and the fault that ended reading, if one did. -/
structure Lexed where
  tokens : List Token
  fault : Option Fault
  /-- The innermost bracket that was open at the end. -/
  unclosed : Option (Char × Point)
  /-- The lines that a backslash joins to the one before. -/
  joined : List Nat
  /-- The last line that was read. -/
  lastLine : Nat

namespace Reading

/-- Adds a token that ends at `stop`, and goes on behind it. -/
def push (s : Reading) (lexeme : Lexeme) (stop : Point) (rest : List Char) : Reading :=
  { s with rest := rest, point := stop, tokens := ⟨lexeme, s.point, stop⟩ :: s.tokens }

/-- Goes on behind a line feed at `stop`; outside of brackets the end of the line is a token. -/
def endLine (s : Reading) (stop : Point) (rest : List Char) : Reading :=
  let s := if s.brackets.isEmpty then s.push .newline (stop.after ['\n']) rest else s
  { s with rest := rest, point := stop.nextLine, lineEnd := stop }

/-- The line that was read last. -/
def lastLine (s : Reading) : Nat := if s.point.byte = 0 then s.lineEnd.line else s.point.line

/-- Ends reading at a fault. -/
def stopAt (s : Reading) (cause : Cause) (point : Point) : Lexed where
  tokens := (⟨.broken, point, point⟩ :: s.tokens).reverse
  fault := some ⟨cause, point⟩
  unclosed := s.brackets.head?
  joined := s.joined
  lastLine := s.lastLine

/-- Ends reading at the end of the source. -/
def finish (s : Reading) : Lexed :=
  match s.brackets with
  | (b, p) :: _ => s.stopAt (.neverClosed b) p
  | [] => ⟨(⟨.finish, s.point, s.point⟩ :: s.tokens).reverse, none, none, s.joined, s.lastLine⟩

/-- Ends reading at the end of the source where a line should go on. -/
def finishContinued (s : Reading) : Lexed :=
  if s.brackets.isEmpty then s.stopAt .endOfSource s.point else s.finish

end Reading

/-- The indentation at the start of a line: its width with tabs of eight and with tabs of one, the
width at the first continuation, if any, and what follows. -/
structure Indentation where
  width : Nat
  altWidth : Nat
  continued : Nat
  point : Point
  rest : List Char

/-- Measures indentation. A form feed starts over; a continued line keeps the width before the
backslash. -/
def measure (width altWidth continued : Nat) (p : Point) : List Char → Except Fault Indentation
  | ' ' :: rest => measure (width + 1) (altWidth + 1) continued (p.after [' ']) rest
  | '\t' :: rest => measure ((width / 8 + 1) * 8) (altWidth + 1) continued (p.after ['\t']) rest
  | '\x0c' :: rest => measure 0 0 continued (p.after ['\x0c']) rest
  | '\\' :: '\n' :: rest =>
    if rest.isEmpty then .error ⟨.endOfSource, p⟩
    else measure width altWidth (if continued ≠ 0 then continued else width) p.nextLine rest
  | '\\' :: _ => .error ⟨.continuation, p⟩
  | rest => .ok ⟨width, altWidth, continued, p, rest⟩

/-- The end of the line that the characters begin at a place. -/
def lineEnd (p : Point) (cs : List Char) : Point := p.after (cs.takeWhile (· ≠ '\n'))

/-- The place of the tokens that open or close levels of indentation: the last of the blanks. -/
def Indentation.mark (i : Indentation) : Point := ⟨i.point.line, i.point.byte - 1⟩

/-- Closes the levels that are wider than a line, adding a token for each. -/
def dedentTo (width : Nat) (p : Point) (tokens : List Token) :
    List (Nat × Nat) → List (Nat × Nat) × List Token
  | [] => ([], tokens)
  | (w, a) :: outer =>
    if width < w then dedentTo width p (⟨.dedent, p, p⟩ :: tokens) outer
    else ((w, a) :: outer, tokens)

/-- Opens or closes levels of indentation for a line that holds a token; `mark` is the place of the
tokens for that. -/
def applyIndent (s : Reading) (i : Indentation) (mark : Point) : Except Fault Reading :=
  let width := if i.continued ≠ 0 then i.continued else i.width
  let altWidth := if i.continued ≠ 0 then i.continued else i.altWidth
  let s := { s with rest := i.rest, point := i.point }
  let (w, a) := s.indents.headD (0, 0)
  if width = w then
    if altWidth = a then .ok s else .error ⟨.inconsistentTabs, i.point⟩
  else if width > w then
    if s.indents.length ≥ indentLimit then .error ⟨.tooManyIndents, i.point⟩
    else if altWidth ≤ a then .error ⟨.inconsistentTabs, i.point⟩
    else .ok { s with
      indents := (width, altWidth) :: s.indents, tokens := ⟨.indent, mark, mark⟩ :: s.tokens }
  else
    let (indents, tokens) := dedentTo width mark s.tokens s.indents
    let (w, a) := indents.headD (0, 0)
    if width ≠ w then .error ⟨.unindentMismatch, lineEnd i.point i.rest⟩
    else if altWidth ≠ a then .error ⟨.inconsistentTabs, i.point⟩
    else .ok { s with indents := indents, tokens := tokens }

/-- Reads a word, which is not the prefix of a string. -/
def readWord (s : Reading) : Except Fault Reading :=
  let (word, rest) := cut continuesWord s.rest
  match if word.all (·.toNat < 128) then none else badCharacter? word with
  | some c => .error ⟨blame c, s.point.after (word.takeWhile (· ≠ c))⟩
  | none => .ok (s.push (.word (String.ofList word)) (s.point.after word) rest)

/-- Reads a symbol and keeps account of the brackets. -/
def readSymbol (s : Reading) (c : Char) (rest : List Char) : Except Fault Reading :=
  let text := scanSymbol c rest
  let next := s.push (.symbol (String.ofList text)) (s.point.after text) ((c :: rest).drop text.length)
  if text ≠ [c] then .ok next
  else if opens c then
    if s.brackets.length ≥ bracketLimit then .error ⟨.tooManyBrackets, s.point⟩
    else .ok { next with brackets := (c, s.point) :: s.brackets }
  else if closes c then
    match s.brackets with
    | [] => .error ⟨.unmatched c, s.point⟩
    | (b, p) :: outer =>
      if closing b = c then .ok { next with brackets := outer }
      else .error ⟨.mismatched c b (if p.line = s.point.line then none else some p.line), s.point⟩
  else if isPrintable c then .ok next
  else .error ⟨.notPrintable c, s.point⟩

/-- Reads one token that begins with `c`. -/
def readToken (s : Reading) (c : Char) (rest : List Char) : Except Fault Reading :=
  match literalPrefix? s.rest with
  | some (marks, body) =>
    match scanLiteral marks s.point body with
    | .ok (text, rest, stop) => .ok (s.push (.quotation text) stop rest)
    | .error cause => .error ⟨cause, s.point⟩
  | none =>
    if startsWord c then readWord s
    else if c.isDigit || (c = '.' && (rest.head?.any Char.isDigit)) then
      match scanNumber s.rest with
      | some (text, rest) => .ok (s.push (.number (String.ofList text)) (s.point.after text) rest)
      | none => .error ⟨.invalidNumber, s.point⟩
    else readSymbol s c rest

/-- Blanks inside a line. -/
def isInlineBlank (c : Char) : Bool := c = ' ' || c = '\t' || c = '\x0c'

/-- Reads tokens until the end or a fault; `lineStart` says that a line outside of brackets
begins. -/
def readFrom : Nat → Bool → Reading → Lexed
  | 0, _, s => s.finish
  | fuel + 1, true, s =>
    match measure 0 0 0 s.point s.rest with
    | .error fault => s.stopAt fault.cause fault.point
    | .ok i =>
      let body := if i.rest.head? = some '#' then i.rest.dropWhile (· ≠ '\n') else i.rest
      match body with
      | '\n' :: rest =>
        let stop := lineEnd i.point i.rest
        readFrom fuel true { s with rest := rest, point := stop.nextLine, lineEnd := stop }
      | [] =>
        if i.rest.isEmpty then
          -- What closes at the end of the source closes at the end of its last line.
          match applyIndent s { i with point := s.lineEnd } s.lineEnd with
          | .error fault => s.stopAt fault.cause fault.point
          | .ok s => s.finish
        else { s with rest := [], point := i.point }.finish
      | _ =>
        match applyIndent s i i.mark with
        | .error fault => s.stopAt fault.cause fault.point
        | .ok s => readFrom fuel false s
  | fuel + 1, false, s =>
    let (blanks, rest) := cut isInlineBlank s.rest
    let s := { s with rest := rest, point := s.point.after blanks }
    match rest with
    | [] => s.finish
    | '#' :: _ =>
      -- The token of a line end begins with the comment in front of it.
      let (comment, rest) := cut (· ≠ '\n') rest
      match rest with
      | '\n' :: rest => readFrom fuel s.brackets.isEmpty (s.endLine (s.point.after comment) rest)
      | _ => { s with rest := [], point := s.point.after comment }.finish
    | '\n' :: rest => readFrom fuel s.brackets.isEmpty (s.endLine s.point rest)
    | '\\' :: '\n' :: rest =>
      if rest.isEmpty then s.finishContinued
      else
        let next := s.point.nextLine
        readFrom fuel false { s with rest := rest, point := next, joined := next.line :: s.joined }
    | '\\' :: _ => s.stopAt .continuation s.point
    | c :: rest =>
      match readToken s c rest with
      | .error fault => s.stopAt fault.cause fault.point
      | .ok s => readFrom fuel false s

/-- The tokens of a text that begins at a place, at the start of a line or inside of one. -/
def lexAt (lineStart : Bool) (p : Point) (cs : List Char) : Lexed :=
  readFrom (2 * cs.length + 2) lineStart ⟨cs, p, p, [(0, 0)], [], [], []⟩

/-- The tokens of a module. -/
def lexModule (text : List Char) : Lexed := lexAt true ⟨1, 0⟩ (moduleText text)

end Localize.Syntax
