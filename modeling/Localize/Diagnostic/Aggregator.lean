/-
  The windows of all modules of a compilation. A module has one current window at a time; opening a
  module whose window is sealed gives it a new one at the end of the order of reports.
-/
import Localize.Diagnostic.Window

namespace Localize

/-- All windows that were ever opened, by number, and the current one of each module, in the order
of reports. -/
structure Aggregator where
  windows : List Window := []
  current : List (String × Nat) := []
deriving Repr

namespace Aggregator

/-- The window with a number; a number that was never given stands for an empty sealed window. -/
def window (a : Aggregator) (id : Nat) : Window := a.windows.getD id { module := "", isSealed := true }

/-- The number of a module's current window. -/
def current? (a : Aggregator) (module : String) : Option Nat :=
  (a.current.find? (·.1 = module)).map (·.2)

/-- The current window of a module. -/
def window? (a : Aggregator) (module : String) : Option Window := (a.current? module).map a.window

/-- Puts a window in place of another one. -/
def put (a : Aggregator) (id : Nat) (w : Window) : Aggregator :=
  { a with windows := a.windows.set id w }

/-- Gives a module a new window, at the end of the order. -/
def renew (a : Aggregator) (module : String) : Aggregator × Nat :=
  let id := a.windows.length
  ({ windows := a.windows ++ [{ module := module }]
     current := a.current.filter (·.1 ≠ module) ++ [(module, id)] }, id)

/-- The window to write to for a module: the current one unless it is sealed. -/
def openWindow (a : Aggregator) (module : String) : Aggregator × Nat :=
  match a.current? module with
  | some id => if (a.window id).isSealed then a.renew module else (a, id)
  | none => a.renew module

/-- Seals a window. -/
def close (a : Aggregator) (id : Nat) : Aggregator := a.put id (a.window id).close

/-- Seals the current window of a module, if it has one. -/
def close? (a : Aggregator) (module : String) : Option (Aggregator × Window) :=
  (a.current? module).map fun id => let a := a.close id; (a, a.window id)

/-- Adds a miss to a window. -/
def addTo (a : Aggregator) (id : Nat) (s : Severity) (m : Miss) :
    Except SealedFault (Aggregator × Bool) := do
  let (w, isNew) ← (a.window id).add s m
  return (a.put id w, isNew)

/-- Adds a miss to the current window of a module, which gets one if it has none yet. -/
def add (a : Aggregator) (module : String) (s : Severity) (m : Miss) :
    Except SealedFault (Aggregator × Bool) :=
  match a.current? module with
  | some id => a.addTo id s m
  | none => let (a, id) := a.openWindow module; a.addTo id s m

/-- The record of a module for a severity. -/
def get? (a : Aggregator) (module : String) (s : Severity) : Option Record :=
  (a.window? module).bind (·.get? s)

/-- The window of a module, empty if it has none. -/
def forModule (a : Aggregator) (module : String) : Window :=
  (a.window? module).getD { module := module }

/-- Whether a module has a window. -/
def contains (a : Aggregator) (module : String) : Bool := (a.current? module).isSome

/-- The records of a severity, module by module. -/
def records (a : Aggregator) (s : Severity) : List Record :=
  a.current.filterMap fun (_, id) => (a.window id).get? s

/-- Whether a module misses a key from every source. -/
def hasErrors (a : Aggregator) : Bool := !(a.records .error).isEmpty

end Aggregator

end Localize
