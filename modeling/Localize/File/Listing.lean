/-
  Listings: trees as data. A listing maps paths to contents, where a text is a file in UTF-8, hexadecimal
  digits are the bytes of any other file, and nothing is a directory.
-/
import Localize.File.Tree

namespace Localize

open Localize.Text

/-! ## Contents -/

/-- The bytes that pairs of hexadecimal digits denote. A digit that is left over denotes none. -/
def bytesOfHex : List Char → Bytes
  | a :: b :: rest => UInt8.ofNat ((hexNumber? [a, b]).getD 0) :: bytesOfHex rest
  | _ => []

/-- The pairs of hexadecimal digits that denote bytes. -/
def hexOfBytes (bytes : Bytes) : List Char := bytes.flatMap fun b => hexPadded 2 b.toNat

/-- The name of the entry that holds hexadecimal digits. -/
def hexEntry : String := "hex"

/-- The bytes that a listed content denotes, unless it denotes a directory. -/
def listedBytes? : Value → Option Bytes
  | .text s => some (encodeUtf8 s.toList)
  | .map entries =>
    match valueAt? hexEntry entries with
    | some (.text digits) => some (bytesOfHex digits.toList)
    | _ => some []
  | _ => none

/-- The listed content of a file. -/
def listed (bytes : Bytes) : Value :=
  match decodeUtf8 bytes with
  | .ok cs => .text (String.ofList cs)
  | .error _ => .map [(hexEntry, .text (String.ofList (hexOfBytes bytes)))]

/-! ## Trees -/

namespace Tree

/-- Adds what is listed under a path, with the directories that lead to it, as far as it can be. -/
def addListed (t : Tree) (name : String) (content : Value) : Tree :=
  let path := Path.ofText name
  match listedBytes? content with
  | none => (t.makeDirectories path).1
  | some bytes =>
    let t := (t.makeDirectories path.parent).1
    match t.write path bytes with
    | .ok t => t
    | .error _ => t

/-- The tree of a listing, whose paths start at the working directory. -/
def ofListing (home : Trail) (listing : List (String × Value)) : Tree :=
  listing.foldl (fun t (name, content) => t.addListed name content) (.empty home)

/-- The content that a tree has at a trail and another one has not. -/
def changeAt? (before after : Tree) (trail : Trail) : Option Bytes :=
  (after.content? trail).filter fun content => before.content? trail ≠ some content

/-- The listing of the files below the working directory that are new or have another content than
before. -/
def changes (before after : Tree) : List (String × Value) :=
  after.nodes.filterMap fun (trail, _) =>
    if after.home.isPrefixOf trail then
      (changeAt? before after trail).map fun content =>
        (Path.joined (trail.drop after.home.length), listed content)
    else none

end Tree

end Localize
