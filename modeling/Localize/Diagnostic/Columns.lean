/-
  Records in columns: keys, default texts and locations each in a list of their own, with an index of the
  keys and the wording of the record. A miss that is added goes to each of them by itself, and what is told
  of a record is put together from those that it needs. Columns that do not go together tell nothing.
-/
import Localize.Diagnostic.Record

namespace Localize

/-- The columns of a record. -/
structure Columns where
  module : String
  severity : Severity
  keys : List String := []
  texts : List String := []
  locations : List (Option Location) := []
  /-- The keys again, to look them up. Their order does not count. -/
  index : List String := []
  /-- The wording of the record when the last miss was added. -/
  wording : String := ""
deriving DecidableEq, Repr

namespace Columns

/-- Why columns do not tell something. -/
inductive Fault where
  | unknown (key : String)
  /-- The columns do not go together. -/
  | uneven
deriving DecidableEq, Repr

/-- The items of two lists in pairs, if there are as many of the one as of the other. -/
def paired (as : List α) (bs : List β) : Except Fault (List (α × β)) :=
  if as.length = bs.length then .ok (as.zip bs) else .error .uneven

/-- The wordings of all misses, a line each. -/
def message (c : Columns) : Except Fault String := do
  let pairs ← paired c.keys c.texts
  return "\n".intercalate (pairs.map fun (key, text) => Miss.message { key, text })

/-- Whether a key is recorded. -/
def contains (c : Columns) (key : String) : Bool := c.index.contains key

/-- Adds a miss, and tells whether its key is new. A key that is recorded already changes nothing. -/
def add (c : Columns) (m : Miss) : Except Fault (Columns × Bool) :=
  if c.contains m.key then .ok (c, false)
  else do
    let c := { c with
      index := c.index.insert m.key
      keys := c.keys ++ [m.key]
      texts := c.texts ++ [m.text]
      locations := c.locations ++ [m.location] }
    return ({ c with wording := ← c.message }, true)

/-- The columns of a first miss. -/
def of (module : String) (severity : Severity) (m : Miss) : Except Fault Columns := do
  let c : Columns := { module, severity }
  return (← c.add m).1

/-- Adds misses one after the other, and tells of each whether its key was new. -/
def addAll (c : Columns) : List Miss → Except Fault (Columns × List Bool)
  | [] => .ok (c, [])
  | m :: rest => do
    let (c, isNew) ← c.add m
    let (c, others) ← c.addAll rest
    return (c, isNew :: others)

/-- The default text that was first seen for a key. -/
def defaultText (c : Columns) (key : String) : Except Fault String :=
  if c.contains key then
    match (c.keys.idxOf? key).bind fun i => c.texts[i]? with
    | some text => .ok text
    | none => .error .uneven
  else .error (.unknown key)

/-- One diagnostic for each key. -/
def diagnostics (c : Columns) : Except Fault (List Diagnostic) := do
  let rows ← paired (← paired c.keys c.texts) c.locations
  return rows.map fun ((key, text), location) => {
    code := c.severity.missCode
    message := Miss.message { key, text }
    severity := c.severity
    module := some c.module
    location := location
    key := some key
    hint := some (c.severity.missHint key) }

end Columns

end Localize
