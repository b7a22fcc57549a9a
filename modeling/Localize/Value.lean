/-
  Values that a localization source holds: the data of a JSON text, and their sealed form, in
  which maps are read-only views and lists are tuples.
-/
import Localize.Number.Shortest
import Localize.Text.Quoted

namespace Localize

/-- A localization value. `tuple` and `view` are the sealed forms of `list` and `map`; the entries
of a map keep the order in which their keys were first given. -/
inductive Value where
  | null
  | bool (b : Bool)
  | int (n : Int)
  | real (x : Double)
  | text (s : String)
  | list (items : List Value)
  | tuple (items : List Value)
  | map (entries : List (String × Value))
  | view (entries : List (String × Value))
deriving Inhabited, Repr

/-- Replaces the value at a key, or adds the key at the end. -/
def setEntry [DecidableEq κ] (key : κ) (value : α) : List (κ × α) → List (κ × α)
  | [] => [(key, value)]
  | (k, v) :: rest => if k = key then (k, value) :: rest else (k, v) :: setEntry key value rest

/-- The value at a key. -/
def valueAt? [DecidableEq κ] (key : κ) : List (κ × α) → Option α
  | [] => none
  | (k, v) :: rest => if k = key then some v else valueAt? key rest

theorem valueAt?_setEntry [DecidableEq κ] (key k : κ) (value : α) (entries : List (κ × α)) :
    valueAt? k (setEntry key value entries) = if k = key then some value else valueAt? k entries := by
  induction entries with
  | nil => by_cases h : k = key <;> simp [setEntry, valueAt?, h, Ne.symm]
  | cons e rest ih =>
    obtain ⟨k', v⟩ := e
    by_cases h : k' = key <;> by_cases h' : k' = k <;> by_cases h'' : k = key <;>
      simp_all [setEntry, valueAt?]

/-- A key that is there keeps its place, and one that is not comes last. -/
theorem keys_setEntry [DecidableEq κ] (key : κ) (value : α) (entries : List (κ × α)) :
    (setEntry key value entries).map Prod.fst =
      if key ∈ entries.map Prod.fst then entries.map Prod.fst
      else entries.map Prod.fst ++ [key] := by
  induction entries with
  | nil => rfl
  | cons e rest ih =>
    obtain ⟨k, v⟩ := e
    by_cases h : k = key
    · simp [setEntry, h]
    · have h' : ¬ key = k := fun h' => h h'.symm
      simp only [setEntry, h, if_false, List.map_cons, ih, List.mem_cons, h', false_or]
      split <;> rfl

namespace Value

mutual

/-- The sealed form of a value: nothing reachable from it can be changed any more. -/
def sealed : Value → Value
  | list items => tuple (sealedItems items)
  | tuple items => tuple (sealedItems items)
  | map entries => view (sealedEntries entries)
  | view entries => view (sealedEntries entries)
  | other => other

def sealedItems : List Value → List Value
  | [] => []
  | v :: rest => sealed v :: sealedItems rest

def sealedEntries : List (String × Value) → List (String × Value)
  | [] => []
  | (k, v) :: rest => (k, sealed v) :: sealedEntries rest

end

/-- A value that stands for a missing localization. -/
def isNull : Value → Bool
  | null => true
  | _ => false

/-- Whether a value is nothing, false, zero or empty. -/
def isVoid : Value → Bool
  | null => true
  | bool b => !b
  | int n => n = 0
  | real x => x.exponentField = 0 && x.fractionField = 0
  | text s => s = ""
  | list items | tuple items => items.isEmpty
  | map entries | view entries => entries.isEmpty

/-- The word for the type of a value in messages. -/
def typeName : Value → String
  | null => "NoneType"
  | bool _ => "bool"
  | int _ => "int"
  | real _ => "float"
  | text _ => "str"
  | list _ => "list"
  | tuple _ => "tuple"
  | map _ => "dict"
  | view _ => "mappingproxy"

/-- Text of a number in messages. -/
def realText (x : Double) : String := x.textWith "nan" "inf"

mutual

/-- How a value is shown inside messages and inside the text of sealed maps. -/
def shown : Value → String
  | null => "None"
  | bool b => if b then "True" else "False"
  | int n => toString n
  | real x => realText x
  | text s => Text.quoted s
  | list items => "[" ++ shownItems items ++ "]"
  | tuple [v] => "(" ++ shown v ++ ",)"
  | tuple items => "(" ++ shownItems items ++ ")"
  | map entries => "\x7b" ++ shownEntries entries ++ "\x7d"
  | view entries => "mappingproxy(\x7b" ++ shownEntries entries ++ "\x7d)"

def shownItems : List Value → String
  | [] => ""
  | [v] => shown v
  | v :: rest => shown v ++ ", " ++ shownItems rest

def shownEntries : List (String × Value) → String
  | [] => ""
  | [(k, v)] => Text.quoted k ++ ": " ++ shown v
  | (k, v) :: rest => Text.quoted k ++ ": " ++ shown v ++ ", " ++ shownEntries rest

end

end Value

end Localize
