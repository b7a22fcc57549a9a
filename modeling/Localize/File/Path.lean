/-
  Paths: a start and the names that lead on from it. A path is read from its text by dropping empty
  names and single dots; two dots stay, since what they lead to depends on the tree.
-/
import Localize.Text.Split

namespace Localize

/-- Where a path starts. -/
inductive Anchor where
  /-- The working directory. -/
  | home
  /-- The root. -/
  | root
  /-- The root, written with two slashes. -/
  | doubleRoot
deriving DecidableEq, Repr

namespace Anchor

/-- The text in front of the first name. -/
def text : Anchor → String
  | home => ""
  | root => "/"
  | doubleRoot => "//"

/-- The start of a path with a number of slashes in front. -/
def ofSlashes : Nat → Anchor
  | 0 => home
  | 2 => doubleRoot
  | _ => root

end Anchor

/-- The names that lead from the root to a place. -/
abbrev Trail := List String

/-- A path. -/
structure Path where
  anchor : Anchor := .home
  names : List String := []
deriving DecidableEq, Repr

namespace Path

/-- Whether a part of a text is a name that leads somewhere else. -/
def isName (part : String) : Bool := part ≠ "" && part ≠ "."

/-- The path that a text denotes. -/
def ofText (text : String) : Path where
  anchor := .ofSlashes (text.toList.takeWhile (· = '/')).length
  names := ((Text.splitAt (· = '/') text.toList).map String.ofList).filter isName

/-- The names of a path with slashes between them. -/
def joined (names : List String) : String := "/".intercalate names

/-- The text of a path. -/
def text (p : Path) : String :=
  match p.anchor, p.names with
  | .home, [] => "."
  | anchor, names => anchor.text ++ joined names

/-- The path that goes on with another one. A path from the root stands for itself. -/
def append (p q : Path) : Path :=
  match q.anchor with
  | .home => { p with names := p.names ++ q.names }
  | _ => q

/-- The last name, which is empty if there is none. -/
def name (p : Path) : String := p.names.getLast?.getD ""

/-- The path without its last name. -/
def parent (p : Path) : Path := { p with names := p.names.dropLast }

/-- The last dot of a name with what follows it. There is no suffix if the dot is the first or the
last character. -/
def suffixOf (name : List Char) : List Char :=
  let back := name.reverse
  let last := back.takeWhile (· ≠ '.')
  match back.dropWhile (· ≠ '.') with
  | _ :: _ :: _ => if last.isEmpty then [] else '.' :: last.reverse
  | _ => []

/-- The suffix of the last name. -/
def suffix (p : Path) : String := String.ofList (suffixOf p.name.toList)

/-- Goes on from a trail by a name; two dots lead back. -/
def follow (trail : Trail) (name : String) : Trail :=
  if name = ".." then trail.dropLast else trail ++ [name]

/-- The trail that a path starts at. -/
def start (home : Trail) (p : Path) : Trail :=
  match p.anchor with
  | .home => home
  | _ => []

/-- The trail of a path, where two dots lead back whatever stands in front of them. -/
def resolve (home : Trail) (p : Path) : Trail := p.names.foldl follow (p.start home)

/-- The path to the end of a trail. -/
def ofTrail (trail : Trail) : Path := ⟨.root, trail⟩

end Path

end Localize
