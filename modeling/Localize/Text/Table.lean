/-
  Tables of code points. A table is written as lines of hexadecimal words, and a set of code points
  by the ascending points at which membership changes.
-/

namespace Localize.Text

/-- The value of a lower-case hexadecimal digit; other characters count as zero. -/
def hexDigit (c : Char) : Nat :=
  if c.isDigit then c.toNat - 48 else if 'a' ≤ c ∧ c ≤ 'f' then c.toNat - 87 else 0

/-- Reads words that are separated by single blanks, most significant digit first. -/
def hexWordsFrom (pending : Option Nat) : List Char → List Nat
  | [] => pending.toList
  | c :: rest =>
    if c = ' ' then pending.toList ++ hexWordsFrom none rest
    else hexWordsFrom (some (pending.getD 0 * 16 + hexDigit c)) rest

/-- The numbers that lines of hexadecimal words list. -/
def hexWords (lines : List String) : List Nat := lines.flatMap fun line => hexWordsFrom none line.toList

/-- A set of code points, given by the ascending points at which membership changes: the first
one begins the first run of members, the second ends it, and so on. -/
abbrev Boundaries := List Nat

/-- Whether `n` lies in the set, if membership below the first boundary is `inside`. -/
def Boundaries.holdsFrom (inside : Bool) : Boundaries → Nat → Bool
  | [], _ => inside
  | b :: rest, n => if n < b then inside else Boundaries.holdsFrom (!inside) rest n

/-- Whether `n` lies in the set. -/
def Boundaries.holds (bounds : Boundaries) (n : Nat) : Bool := bounds.holdsFrom false n

end Localize.Text
