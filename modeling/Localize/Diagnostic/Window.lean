/-
  Write windows. A window collects the records of one module while the module is scanned; once it
  is sealed nothing can be added any more.
-/
import Localize.Diagnostic.Record

namespace Localize

/-- The write window of a module, with its record for each severity. -/
structure Window where
  module : String
  isSealed : Bool := false
  warnings : Option Record := none
  errors : Option Record := none
deriving Repr

/-- A write to a window that is sealed. -/
structure SealedFault where
  module : String
  key : String
deriving DecidableEq, Repr

/-- The wording of a write to a sealed window. -/
def SealedFault.message (f : SealedFault) : String :=
  "Module '" ++ f.module ++ "' is sealed; cannot record missing key '" ++ f.key ++ "'"

namespace Window

/-- The record of a severity. -/
def get? (w : Window) : Severity → Option Record
  | .warning => w.warnings
  | .error => w.errors

/-- Puts a record in place of that of a severity. -/
def set (w : Window) (s : Severity) (r : Record) : Window :=
  match s with
  | .warning => { w with warnings := some r }
  | .error => { w with errors := some r }

/-- The keys that are recorded with a severity. -/
def keys (w : Window) (s : Severity) : List String := ((w.get? s).map Record.keys).getD []

/-- The record of a severity with a miss added, whether there was one or not. -/
def recordWith (w : Window) (s : Severity) (m : Miss) : Record :=
  match w.get? s with
  | none => Record.of w.module s m
  | some r => r.add m

/-- Adds a miss, and tells whether its key is new to its severity. -/
def add (w : Window) (s : Severity) (m : Miss) : Except SealedFault (Window × Bool) :=
  if w.isSealed then .error ⟨w.module, m.key⟩
  else .ok (w.set s (w.recordWith s m), !(w.keys s).contains m.key)

/-- The window when its module is scanned. -/
def close (w : Window) : Window := { w with isSealed := true }

/-- All records, warnings first. -/
def records (w : Window) : List Record := w.warnings.toList ++ w.errors.toList

end Window

end Localize
