/-
  Keys as paths. A key names a path of segments through nested maps and lists: segments
  stand between dots, an index in brackets is a segment of its own, and one dot in front is left out.
-/
import Localize.Text.Word

namespace Localize.Key

open Localize.Text

/-- Writes each bracketed index as a segment behind a dot. Outside of brackets `index` is `none`;
behind an opening bracket it holds the word characters since, reversed. -/
def dottedFrom (index : Option (List Char)) : List Char → List Char
  | [] =>
    match index with
    | none => []
    | some word => '[' :: word.reverse
  | c :: rest =>
    match index with
    | none => if c = '[' then dottedFrom (some []) rest else c :: dottedFrom none rest
    | some word =>
      if isWord c then dottedFrom (some (c :: word)) rest
      else if c = ']' && !word.isEmpty then '.' :: word.reverse ++ dottedFrom none rest
      else if c = '[' then '[' :: word.reverse ++ dottedFrom (some []) rest
      else '[' :: word.reverse ++ c :: dottedFrom none rest

/-- The key with a dot in place of each bracketed index. -/
def dotted (key : List Char) : List Char := dottedFrom none key

/-- The parts of a text between its dots, of which there is one more than dots; `part` holds the
characters of the current part, reversed. -/
def splitDotsFrom (part : List Char) : List Char → List (List Char)
  | [] => [part.reverse]
  | c :: rest => if c = '.' then part.reverse :: splitDotsFrom [] rest else splitDotsFrom (c :: part) rest

/-- The key without the dot in front, if it has one. -/
def withoutLeadingDot : List Char → List Char
  | '.' :: rest => rest
  | cs => cs

/-- The segments of a key. -/
def segments (key : String) : List String :=
  (splitDotsFrom [] (withoutLeadingDot (dotted key.toList))).map String.ofList

end Localize.Key
