/-
  Resolution of one key: the first source is asked, then the fallback, and the default text stands
  in for both. What a source misses is recorded in the window of the module.
-/
import Localize.Config
import Localize.Diagnostic.Window
import Localize.Event

namespace Localize

/-- How a key was resolved. -/
inductive Outcome where
  /-- The first source has the key. -/
  | primary
  /-- Only the fallback has it. -/
  | fallback
  /-- Neither has it. -/
  | fallbackMissed
  /-- The first source does not have it and there is no other. -/
  | noFallback
  /-- There is no source. -/
  | disabled
deriving DecidableEq, Repr

namespace Outcome

/-- All outcomes. -/
def all : List Outcome := [primary, fallback, fallbackMissed, noFallback, disabled]

/-- The word for an outcome. -/
def text : Outcome → String
  | primary => "primary"
  | fallback => "fallback"
  | fallbackMissed => "fallback_missed"
  | noFallback => "no_fallback"
  | disabled => "disabled"

/-- The outcome with a name. -/
def ofText? (name : String) : Option Outcome := all.find? (·.text = name)

/-- Whether the first source, if there is one, does not have the key. -/
def missesPrimary : Outcome → Bool
  | primary | disabled => false
  | _ => true

end Outcome

/-- The value that takes the place of a call. -/
structure Resolution where
  value : Value
  outcome : Outcome
deriving Repr

/-- Why a call is not folded. -/
inductive FoldFault where
  | lookup (f : LookupFault)
  | closed (f : SealedFault)
  | position (e : PositionError)
deriving Repr

/-- The window of a module while its keys are resolved, and the events so far, reversed. -/
structure Journal where
  window : Window
  events : List Event := []
deriving Repr

/-- Resolving keeps what was written before a fault. -/
abbrev Resolving := ExceptT FoldFault (StateM Journal)

namespace Resolution

/-- Records a miss. -/
def record (severity : Severity) (m : Miss) : Resolving Unit := do
  let journal ← get
  match journal.window.add severity m with
  | .error f => throw (.closed f)
  | .ok (window, isNew) =>
    let events :=
      if isNew then .missed severity window.module m.key :: journal.events else journal.events
    set { journal with window := window, events := events : Journal }

/-- Asks a source. -/
def ask (source : Source) (key : String) : Resolving (Option Value) :=
  match source.resolve key with
  | .ok value => return value
  | .error f => throw (.lookup f)

/-- Resolves a key for which the first source has no value. -/
def ofFallback (fallback : Option Source) (m : Miss) : Resolving Resolution :=
  match fallback with
  | none => return ⟨.text m.text, .noFallback⟩
  | some source => do
    match ← ask source m.key with
    | some value => return ⟨value, .fallback⟩
    | none => do
      record .error m
      return ⟨.text m.text, .fallbackMissed⟩

/-- Resolves a key, of which the miss tells the default text and the location. -/
def of (config : Config) (m : Miss) : Resolving Resolution :=
  match config.primary with
  | none => do
    modify fun journal => { journal with events := .unlocalized m.key :: journal.events }
    return ⟨.text m.text, .disabled⟩
  | some source => do
    match ← ask source m.key with
    | some value => return ⟨value, .primary⟩
    | none => do
      record .warning m
      ofFallback config.fallback m

end Resolution

end Localize
