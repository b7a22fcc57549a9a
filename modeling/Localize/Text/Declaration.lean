/-
  The encoding of a source file: a mark in front of it stands for UTF-8, and a comment in one of the
  first two lines may declare an encoding. The second line counts only behind an empty first one.
-/
import Localize.Text.Charset
import Localize.Text.Split

namespace Localize.Text

/-- Why the encoding of a file is not known. -/
inductive DeclarationFault where
  /-- A line that might declare an encoding is not UTF-8. -/
  | undecodable
  | unknown (name : String)
  /-- The declared encoding is not that of the mark. -/
  | contradiction
deriving DecidableEq, Repr

/-- The wording of a fault in a file. -/
def DeclarationFault.message (file : String) : DeclarationFault → String
  | undecodable => "invalid or missing encoding declaration for " ++ quoted file
  | unknown name => "unknown encoding for " ++ quoted file ++ ": " ++ name
  | contradiction => "encoding problem for " ++ quoted file ++ ": utf-8"

/-- A blank inside a line. -/
def isInnerBlank (c : Char) : Bool := c = ' ' || c = '\t' || c = '\x0c'

/-- A character of the name of an encoding in a declaration. -/
def isNameChar (c : Char) : Bool := c.isAlphanum || c = '_' || c = '-' || c = '.'

/-- The name behind `coding:` or `coding=` at the front of a text. -/
def nameAfterKeyword (cs : List Char) : Option String :=
  if "coding:".toList.isPrefixOf cs || "coding=".toList.isPrefixOf cs then
    let name := ((cs.drop 7).dropWhile fun c => c = ' ' || c = '\t').takeWhile isNameChar
    if name.isEmpty then none else some (String.ofList name)
  else none

/-- The first name that a comment declares. -/
def declaredIn : List Char → Option String
  | [] => none
  | c :: rest =>
    if c = '\n' then none
    else match nameAfterKeyword (c :: rest) with
      | some name => some name
      | none => declaredIn rest

/-- The name of the encoding that a line declares. -/
def declaredName? (line : List Char) : Option String :=
  match line.dropWhile isInnerBlank with
  | '#' :: comment => declaredIn comment
  | _ => none

/-- The usual names for an encoding, with what may follow them, stand for one; other names stand for
themselves. -/
def usualName (name : String) : String :=
  let short := ((name.toList.take 12).map Char.toLower).map fun c => if c = '_' then '-' else c
  let isA (usual : String) : Bool := short = usual.toList || (usual ++ "-").toList.isPrefixOf short
  if isA "utf-8" then "utf-8"
  else if isA "latin-1" || isA "iso-8859-1" || isA "iso-latin-1" then "iso-8859-1"
  else name

/-- The encoding that a line declares, in a file with or without a mark. -/
def declaredEncoding (marked : Bool) (line : Bytes) : Except DeclarationFault (Option Encoding) :=
  match decodeUtf8 line with
  | .error _ => .error .undecodable
  | .ok cs =>
    match declaredName? cs with
    | none => .ok none
    | some name =>
      let name := usualName name
      match Encoding.named? name with
      | none => .error (.unknown name)
      | some encoding =>
        if !marked then .ok (some encoding)
        else if name = "utf-8" then .ok (some .utf8Mark)
        else .error .contradiction

/-- Whether a line holds nothing but blanks and a comment. -/
def isEmptyLine (line : Bytes) : Bool :=
  match line.dropWhile (fun b => b = 32 || b = 9 || b = 12) with
  | [] => true
  | b :: _ => b = 35 || b = 10 || b = 13

/-- The bytes up to the first line feed, with it, and what follows. -/
def splitLine (bytes : Bytes) : Bytes × Bytes :=
  match bytes.dropWhile (· ≠ 10) with
  | [] => (bytes, [])
  | feed :: rest => (bytes.takeWhile (· ≠ 10) ++ [feed], rest)

/-- The encoding of the source file with a content. -/
def sourceEncoding (bytes : Bytes) : Except DeclarationFault Encoding := do
  let marked := utf8MarkBytes.isPrefixOf bytes
  let default := if marked then Encoding.utf8Mark else .utf8
  let (first, rest) := splitLine (withoutMark bytes)
  if first.isEmpty then return default
  match ← declaredEncoding marked first with
  | some encoding => return encoding
  | none =>
    let (second, _) := splitLine rest
    if second.isEmpty || !isEmptyLine first then return default
    return (← declaredEncoding marked second).getD default

end Localize.Text
