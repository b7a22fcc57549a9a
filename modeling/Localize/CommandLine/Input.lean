/-
  Modules that a command line names: files by their names, and what ends in `.py` below directories by
  its path from there. Modules are read in the encoding that they declare.
-/
import Localize.File.Tree
import Localize.Sort
import Localize.Text.Declaration

namespace Localize.CommandLine

open Localize.Text

/-- A module with its text and the encoding that it was read in. -/
structure Input where
  id : String
  path : Path
  encoding : Encoding
  text : String
deriving DecidableEq, Repr

/-- Why modules are not read. -/
inductive InputFault where
  /-- Two files have one name. -/
  | clash (id previous path : String)
  | file (f : FileFault)
  | declaration (path : String) (f : DeclarationFault)
  | encoding (f : DecodeFault)
deriving DecidableEq, Repr

/-- The wording of a fault. -/
def InputFault.message : InputFault → String
  | clash id previous path => s!"Module id '{id}' is used by both {previous} and {path}; " ++
      "pass their common parent directory instead"
  | file f => f.message
  | declaration path f => f.message path
  | encoding f => f.message

/-! ## Names -/

/-- What the name of a module in a directory ends in. -/
def moduleSuffix : List Char := ".py".toList

/-- Whether the last of several names is that of a module. -/
def isModuleName (names : List String) : Bool :=
  match names.getLast? with
  | some name => moduleSuffix.isSuffixOf name.toList
  | none => false

/-- The modules below the directory at a trail, by the names that lead to them. -/
def modulesBelow (tree : Tree) (trail : Trail) : List (List String) :=
  sortBy (fun a b => !comeBefore b a) ((tree.below trail).filter isModuleName)

/-- The modules that a source stands for. -/
def modulesOf (tree : Tree) (source : Path) : Except FileFault (List (String × Path)) := do
  if ← tree.isDirectory source then
    let trail ← tree.locate source
    return (modulesBelow tree trail).map fun names =>
      (Path.joined names, source.append { names })
  else return [(source.name, source)]

/-- Adds a module. Two paths may have one name only if they lead to the same place. -/
def addModule (home : Trail) (modules : List (String × Path)) (added : String × Path) :
    Except InputFault (List (String × Path)) :=
  let (id, path) := added
  match valueAt? id modules with
  | none => .ok (setEntry id path modules)
  | some previous => do
    let there ← (previous.place home).mapError InputFault.file
    let here ← (path.place home).mapError InputFault.file
    if there = here then return setEntry id path modules
    else throw (.clash id previous.text path.text)

/-- The modules that sources stand for, each by its name. -/
def collect (tree : Tree) (sources : List Path) : Except InputFault (List (String × Path)) :=
  sources.foldlM (fun modules source => do
    let added ← (modulesOf tree source).mapError InputFault.file
    added.foldlM (addModule tree.home) modules) []

/-! ## Texts -/

/-- The text of a module and the encoding that it is in. -/
def readModule (tree : Tree) (path : Path) : Except InputFault (Encoding × String) := do
  let bytes ← (tree.read path).mapError InputFault.file
  let encoding ← (sourceEncoding bytes).mapError (InputFault.declaration path.text)
  let cs ← (encoding.decode bytes).mapError InputFault.encoding
  return (encoding, String.ofList (unifyLineEnds cs))

/-- Reads modules. -/
def readModules (tree : Tree) (modules : List (String × Path)) : Except InputFault (List Input) :=
  modules.mapM fun (id, path) => do
    let (encoding, text) ← readModule tree path
    return { id, path, encoding, text }

end Localize.CommandLine
