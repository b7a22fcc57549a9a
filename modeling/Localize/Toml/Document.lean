/-
  Documents under construction: nested tables and the paths that may not be opened again. Tables
  are reached by paths of keys; on the way the last item stands for an array of tables.
-/
import Localize.Toml.Value

namespace Localize.Toml

/-- A path of keys. -/
abbrev Path := List String

/-- A path as messages show it. -/
def Path.shown : Path → String
  | [key] => "(" ++ Text.quoted key ++ ",)"
  | keys => "(" ++ ", ".intercalate (keys.map Text.quoted) ++ ")"

/-- The entries of a table. -/
abbrev Table := List (String × Value)

/-- Changes the last of several values. -/
def changeLast (change : Value → Option Value) : List Value → Option (List Value)
  | [] => none
  | [v] => (change v).map fun v => [v]
  | v :: rest => (changeLast change rest).map (v :: ·)

/-- Changes the table at a path below a table. Missing tables are made on the way; a value that is
no table stands in the way. -/
def changeAt (throughArrays : Bool) (change : Table → Option Table) : Path → Table → Option Table
  | [], t => change t
  | key :: rest, t =>
    let inside (v : Value) : Option Value :=
      match v with
      | .table inner => (changeAt throughArrays change rest inner).map Value.table
      | _ => none
    match valueAt? key t with
    | none => (inside (.table [])).map fun v => setEntry key v t
    | some (.array items) =>
      if throughArrays then (changeLast inside items).map fun items => setEntry key (.array items) t
      else none
    | some v => (inside v).map fun v => setEntry key v t

/-- A document: its tables, the paths of tables that have a declaration of their own, the paths
whose contents are complete, and the paths that count as declared from the next declaration on. -/
structure Document where
  root : Table := []
  declared : List Path := []
  complete : List Path := []
  pending : List Path := []

namespace Document

/-- Whether a path has a declaration of its own. -/
def isDeclared (d : Document) (path : Path) : Bool := d.declared.contains path

/-- Whether a path lies in something that is complete. -/
def isComplete (d : Document) (path : Path) : Bool :=
  !path.isEmpty && d.complete.any fun p => p.isPrefixOf path

/-- Declares the paths that wait for the next declaration. -/
def settle (d : Document) : Document := { d with declared := d.pending ++ d.declared, pending := [] }

/-- Forgets what is known of the paths at and below a path. -/
def forget (d : Document) (path : Path) : Document :=
  { d with
    declared := d.declared.filter (!path.isPrefixOf ·)
    complete := d.complete.filter (!path.isPrefixOf ·) }

end Document

end Localize.Toml
