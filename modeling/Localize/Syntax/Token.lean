/-
  Tokens of Python source: what they are, and where they stand. A place in the source is a line and
  a byte column, which is how the syntax tree names places.
-/
import Localize.Position.Lines

namespace Localize.Syntax

/-- A place in a source text: the line, counted from one, and the byte column, from zero. -/
structure Point where
  line : Nat
  byte : Nat
deriving DecidableEq, Repr, Inhabited

/-- The place behind characters that hold no line feed. -/
def Point.after (p : Point) (cs : List Char) : Point := ⟨p.line, p.byte + byteSize cs⟩

/-- The start of the line below. -/
def Point.nextLine (p : Point) : Point := ⟨p.line + 1, 0⟩

/-- Where a construct begins and where it ends. -/
structure Span where
  start : Point
  stop : Point
deriving DecidableEq, Repr, Inhabited

/-- What a token is. -/
inductive Lexeme where
  /-- An identifier or a keyword, as written. -/
  | word (text : String)
  | number (text : String)
  /-- A string or bytes literal, as written. -/
  | quotation (text : List Char)
  /-- An operator or a delimiter. -/
  | symbol (text : String)
  | newline
  | indent
  | dedent
  /-- The end of the source. -/
  | finish
  /-- The place where no token could be read. -/
  | broken
deriving DecidableEq, Repr, Inhabited

/-- A token with the places where it begins and ends. -/
structure Token where
  lexeme : Lexeme
  start : Point
  stop : Point
deriving DecidableEq, Repr, Inhabited

/-- Why a source is not read. -/
inductive Cause where
  /-- A bracket that is still open at the end of the source. -/
  | neverClosed (bracket : Char)
  | unmatched (bracket : Char)
  /-- A closing bracket that belongs to another kind; the line is that of the opening one, if it
  is an earlier one. -/
  | mismatched (closing opening : Char) (line : Option Nat)
  | tooManyBrackets
  | unterminated (line : Nat)
  | unterminatedTriple (line : Nat)
  | invalidCharacter (c : Char)
  | notPrintable (c : Char)
  | invalidNumber
  | continuation
  | endOfSource
  | unindentMismatch
  | inconsistentTabs
  | tooManyIndents
  | unexpectedIndent
  | unexpectedUnindent
  /-- No block behind the construct on the given line. -/
  | missingBlock (construct : String) (line : Nat)
  | invalidSyntax
  /-- Nesting beyond what is read at all. -/
  | tooDeep
  /-- A tree that is read, but is deeper than trees may be. -/
  | treeTooDeep
deriving DecidableEq, Repr

/-- A cause and the place that it is blamed on. -/
structure Fault where
  cause : Cause
  point : Point
deriving DecidableEq, Repr

/-- A fault, and the place from which on its column is counted: lines that belong together may be
counted as one. -/
structure Refusal where
  fault : Fault
  origin : Point
deriving DecidableEq, Repr

/-- A fault whose column is counted in its own line. -/
def Fault.refusal (f : Fault) : Refusal := ⟨f, ⟨f.point.line, 0⟩⟩

namespace Cause

/-- Upper-case hexadecimal text of a code point, of four digits at least. -/
def codePoint (c : Char) : String :=
  let ds := (Nat.toDigits 16 c.toNat).map Char.toUpper
  String.ofList (List.replicate (4 - ds.length) '0' ++ ds)

/-- The wording of a cause. -/
def message : Cause → String
  | neverClosed b => s!"'{b}' was never closed"
  | unmatched b => s!"unmatched '{b}'"
  | mismatched closing opening line =>
    let place := match line with
      | some n => s!" on line {n}"
      | none => ""
    s!"closing parenthesis '{closing}' does not match opening parenthesis '{opening}'{place}"
  | tooManyBrackets => "too many nested parentheses"
  | unterminated n => s!"unterminated string literal (detected at line {n})"
  | unterminatedTriple n => s!"unterminated triple-quoted string literal (detected at line {n})"
  | invalidCharacter c => s!"invalid character '{c}' (U+{codePoint c})"
  | notPrintable c => s!"invalid non-printable character U+{codePoint c}"
  | invalidNumber => "invalid decimal literal"
  | continuation => "unexpected character after line continuation character"
  | endOfSource => "unexpected EOF while parsing"
  | unindentMismatch => "unindent does not match any outer indentation level"
  | inconsistentTabs => "inconsistent use of tabs and spaces in indentation"
  | tooManyIndents => "too many levels of indentation"
  | unexpectedIndent => "unexpected indent"
  | unexpectedUnindent => "unexpected unindent"
  | missingBlock construct line => s!"expected an indented block after {construct} on line {line}"
  | invalidSyntax => "invalid syntax"
  | tooDeep | treeTooDeep => "source too deeply nested for the parser"

/-- What is logged about a cause: its wording, or what the reader says of its own limits. -/
def brief : Cause → String
  | tooDeep => ""
  | treeTooDeep => "maximum recursion depth exceeded during ast construction"
  | cause => cause.message

/-- Causes that are found while tokens are read. They win over a fault at an earlier token, and their
columns are counted in their own lines. -/
def wins : Cause → Bool
  | unmatched _ | mismatched .. | tooManyBrackets | unterminated _ | unterminatedTriple _
  | invalidCharacter _ | notPrintable _ | invalidNumber => true
  | _ => false

end Cause

end Localize.Syntax
