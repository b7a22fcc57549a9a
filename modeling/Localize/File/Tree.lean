/-
  Trees of files and directories. A path is followed name by name: what stands in front of a name
  has to be a directory. Each operation fails with the reason and the path that was asked for.
-/
import Localize.File.Path
import Localize.Text.Encoding
import Localize.Value

namespace Localize

open Localize.Text

/-- Why an operation on a path fails. -/
inductive FileFault.Reason where
  | missing
  | present
  | notDirectory
  | isDirectory
  | nameTooLong
deriving DecidableEq, Repr

namespace FileFault.Reason

/-- The number of a reason. -/
def number : Reason → Nat
  | missing => 2
  | present => 17
  | notDirectory => 20
  | isDirectory => 21
  | nameTooLong => 36

/-- The wording of a reason. -/
def text : Reason → String
  | missing => "No such file or directory"
  | present => "File exists"
  | notDirectory => "Not a directory"
  | isDirectory => "Is a directory"
  | nameTooLong => "File name too long"

end FileFault.Reason

/-- A failed operation. -/
inductive FileFault where
  | failed (reason : FileFault.Reason) (path : String)
  /-- The path has a null character. -/
  | nullCharacter
deriving DecidableEq, Repr

/-- The wording of a failure with a number and the path that was asked for. -/
def numberedFailure (number : Nat) (text path : String) : String :=
  s!"[Errno {number}] {text}: " ++ quoted path

/-- The wording of a failed operation. -/
def FileFault.message : FileFault → String
  | failed reason path => numberedFailure reason.number reason.text path
  | nullCharacter => "embedded null byte"

/-- The place that a path leads to by its names alone. A path with a null character leads nowhere. -/
def Path.place (home : Trail) (p : Path) : Except FileFault Trail :=
  if p.text.toList.contains '\x00' then .error .nullCharacter else .ok (p.resolve home)

/-- What a trail leads to. -/
inductive FileNode where
  | file (content : Bytes)
  | directory
deriving DecidableEq, Repr

/-- A tree with its working directory. The root itself is not among the nodes. -/
structure Tree where
  home : Trail
  nodes : List (Trail × FileNode)
deriving Repr

/-- The most bytes that a name may have. -/
def nameLimit : Nat := 255

/-- The number of bytes from which on a path is too long. -/
def pathLimit : Nat := 4096

namespace Tree

/-- The tree that has a working directory and nothing else. -/
def empty (home : Trail) : Tree where
  home := home
  nodes := (List.range home.length).map fun n => (home.take (n + 1), .directory)

/-- What a trail leads to. -/
def node? (t : Tree) (trail : Trail) : Option FileNode :=
  if trail = [] then some .directory else valueAt? trail t.nodes

/-- The content of the file that a trail leads to. -/
def content? (t : Tree) (trail : Trail) : Option Bytes :=
  match t.node? trail with
  | some (.file content) => some content
  | _ => none

/-- Puts a node at the end of a trail. -/
def put (t : Tree) (trail : Trail) (node : FileNode) : Tree :=
  { t with nodes := setEntry trail node t.nodes }

/-- Goes on from a directory by a name. -/
def step (trail : Trail) (name : String) : Except FileFault.Reason Trail :=
  if name ≠ ".." && name.utf8ByteSize > nameLimit then .error .nameTooLong
  else .ok (Path.follow trail name)

/-- Follows names from a directory. All but the last have to lead to directories. -/
def walk (t : Tree) (trail : Trail) : List String → Except FileFault.Reason Trail
  | [] => .ok trail
  | [name] => step trail name
  | name :: rest => do
    let next ← step trail name
    match t.node? next with
    | some .directory => t.walk next rest
    | some (.file _) => throw .notDirectory
    | none => throw .missing

/-- The trail of a path, if it can be followed to its last name. -/
def locate (t : Tree) (p : Path) : Except FileFault Trail :=
  if p.text.toList.contains '\x00' then .error .nullCharacter
  else if p.text.utf8ByteSize ≥ pathLimit then .error (.failed .nameTooLong p.text)
  else (t.walk (p.start t.home) p.names).mapError (.failed · p.text)

/-- The content of a file. -/
def read (t : Tree) (p : Path) : Except FileFault Bytes := do
  match t.node? (← t.locate p) with
  | some (.file content) => return content
  | some .directory => throw (.failed .isDirectory p.text)
  | none => throw (.failed .missing p.text)

/-- Whether a path leads to a directory. -/
def isDirectory (t : Tree) (p : Path) : Except FileFault Bool :=
  match t.locate p with
  | .ok trail => .ok (t.node? trail = some .directory)
  | .error (.failed .nameTooLong path) => .error (.failed .nameTooLong path)
  | .error _ => .ok false

/-- Writes a file. -/
def write (t : Tree) (p : Path) (content : Bytes) : Except FileFault Tree := do
  let trail ← t.locate p
  match t.node? trail with
  | some .directory => throw (.failed .isDirectory p.text)
  | _ => return t.put trail (.file content)

/-- Makes a directory where there is nothing yet. -/
def makeDirectory (t : Tree) (p : Path) : Except FileFault Tree := do
  let trail ← t.locate p
  match t.node? trail with
  | some _ => throw (.failed .present p.text)
  | none => return t.put trail .directory

/-- Forgives a failure to make a directory that is there already. -/
def forgive (t : Tree) (p : Path) (f : FileFault) : Except FileFault Unit :=
  match f with
  | .nullCharacter => .error f
  | .failed .. => do if ← t.isDirectory p then return () else throw f

/-- Makes the directory whose names are given from the last to the first, and those that lead to it.
What is made before a failure stays. -/
def makeFrom (t : Tree) (anchor : Anchor) : List String → Tree × Except FileFault Unit
  | [] => (t, .ok ())
  | name :: above =>
    let p : Path := ⟨anchor, (name :: above).reverse⟩
    match t.makeDirectory p with
    | .ok t => (t, .ok ())
    | .error (.failed .missing _) =>
      match t.makeFrom anchor above with
      | (t, .error f) => (t, .error f)
      | (t, .ok ()) =>
        match t.makeDirectory p with
        | .ok t => (t, .ok ())
        | .error f => (t, t.forgive p f)
    | .error f => (t, t.forgive p f)

/-- Makes a directory and those that lead to it, as far as they are not there yet. -/
def makeDirectories (t : Tree) (p : Path) : Tree × Except FileFault Unit :=
  t.makeFrom p.anchor p.names.reverse

/-- What lies below a trail, by the names that lead on from it. -/
def below (t : Tree) (trail : Trail) : List (List String) :=
  (t.nodes.filter fun n => trail.isPrefixOf n.1).map fun n => n.1.drop trail.length

end Tree

end Localize
