/-
  Quoted form of a text, as it appears inside messages: single quotes, unless the text holds a
  single quote and no double quote; what cannot be printed is escaped by code point.
-/
import Localize.Text.Hex
import Localize.Text.Printable

namespace Localize.Text

/-- The backslash escape that names a character by its code point, in the shortest of the three
widths. -/
def codePointEscape (c : Char) : List Char :=
  if c.toNat < 0x100 then '\\' :: 'x' :: hexPadded 2 c.toNat
  else if c.toNat < 0x10000 then '\\' :: 'u' :: hexPadded 4 c.toNat
  else '\\' :: 'U' :: hexPadded 8 c.toNat

/-- The quote that encloses the quoted form of a text. -/
def quoteOf (cs : List Char) : Char := if cs.contains '\'' && !cs.contains '"' then '"' else '\''

/-- How one character appears between quotes. -/
def quotedChar (quote c : Char) : List Char :=
  if c = quote || c = '\\' then ['\\', c]
  else if c = '\n' then ['\\', 'n']
  else if c = '\r' then ['\\', 'r']
  else if c = '\t' then ['\\', 't']
  else if isPrintable c then [c]
  else codePointEscape c

/-- The quoted form of a text. -/
def quoted (text : String) : String :=
  let cs := text.toList
  let quote := quoteOf cs
  String.ofList (quote :: cs.flatMap (quotedChar quote) ++ [quote])

end Localize.Text
