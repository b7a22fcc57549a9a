/-
  Places while a text is read: what is left of it, and how many characters came before.
-/

namespace Localize.Text

/-- What is left to read: the characters, and how many came before them. -/
structure Cursor where
  position : Nat
  rest : List Char

namespace Cursor

/-- The start of a text. -/
def start (cs : List Char) : Cursor := ⟨0, cs⟩

/-- Steps over `n` characters. -/
def skip (s : Cursor) (n : Nat) : Cursor := ⟨s.position + n, s.rest.drop n⟩

/-- Steps over the characters at the front that satisfy a test, and gives them. -/
def takeWhile (s : Cursor) (test : Char → Bool) : List Char × Cursor :=
  let taken := s.rest.takeWhile test
  (taken, s.skip taken.length)

/-- Steps over the characters at the front that satisfy a test. -/
def skipWhile (s : Cursor) (test : Char → Bool) : Cursor := (s.takeWhile test).2

/-- The next character. -/
def head? (s : Cursor) : Option Char := s.rest.head?

/-- Whether certain characters come next. -/
def startsWith (s : Cursor) (front : List Char) : Bool := front.isPrefixOf s.rest

end Cursor

/-- The line and the column, both counted from one, that lie a number of characters behind a line
and a column. -/
def placeFrom (line column : Nat) : Nat → List Char → Nat × Nat
  | 0, _ => (line, column)
  | _, [] => (line, column)
  | n + 1, c :: rest =>
    if c = '\n' then placeFrom (line + 1) 1 n rest else placeFrom line (column + 1) n rest

/-- The line and the column, both counted from one, of a position in a text. -/
def place (cs : List Char) (position : Nat) : Nat × Nat := placeFrom 1 1 position cs

end Localize.Text
