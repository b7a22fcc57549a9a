/-
  Records of missing localizations: the keys that one module misses with one severity, each with
  the default text and the location that were first seen for it.
-/
import Localize.Diagnostic.Basic
import Localize.Text.Quoted

namespace Localize

/-- A missed key. -/
structure Miss where
  key : String
  /-- The text that stands in for the localization. -/
  text : String
  location : Option Location := none
deriving DecidableEq, Repr

/-- The wording of a miss; the default text is given where it differs from the key. -/
def Miss.message (m : Miss) : String :=
  if m.key = m.text then "Missing localization: " ++ m.key
  else "Missing localization: (" ++ m.key ++ ") " ++ m.text

/-- The code of misses with a severity. -/
def Severity.missCode : Severity → Code
  | error => .missingFallbackLocalization
  | warning => .missingLocalization

/-- What to do about a miss with a severity. -/
def Severity.missHint (key : String) : Severity → String
  | error => "Add '" ++ key ++ "' to the localization or fallback dictionary"
  | warning => "Add '" ++ key ++ "' to the localization dictionary"

/-- The missed keys of a module, each once and in the order in which they were first missed. -/
structure Record where
  module : String
  severity : Severity
  misses : List Miss
  distinct : (misses.map Miss.key).Nodup
deriving Repr

namespace Record

/-- The record of a first miss. -/
def of (module : String) (severity : Severity) (m : Miss) : Record where
  module := module
  severity := severity
  misses := [m]
  distinct := by simp

/-- The keys of a record. -/
def keys (r : Record) : List String := r.misses.map Miss.key

/-- The default texts of a record, in the order of its keys. -/
def texts (r : Record) : List String := r.misses.map Miss.text

/-- The locations of a record, in the order of its keys. -/
def locations (r : Record) : List (Option Location) := r.misses.map Miss.location

/-- Whether a key is recorded. -/
def contains (r : Record) (key : String) : Bool := r.keys.contains key

/-- Adds a miss; a key that is recorded already keeps what was first seen for it. -/
def add (r : Record) (m : Miss) : Record :=
  if h : m.key ∈ r.misses.map Miss.key then r
  else
    { r with
      misses := r.misses ++ [m]
      distinct := by
        rw [List.map_append, List.nodup_append]
        refine ⟨r.distinct, by simp, ?_⟩
        intro a ha b hb heq
        simp only [List.map_cons, List.map_nil, List.mem_singleton] at hb
        exact h (hb ▸ heq ▸ ha) }

/-- Adds misses one after the other. -/
def addAll (r : Record) (ms : List Miss) : Record := ms.foldl add r

/-- The default text that was first seen for a key. -/
def defaultText? (r : Record) (key : String) : Option String :=
  (r.misses.find? (·.key = key)).map (·.text)

/-- The code of a record. -/
def code (r : Record) : Code := r.severity.missCode

/-- The wordings of all misses, a line each. -/
def message (r : Record) : String := "\n".intercalate (r.misses.map Miss.message)

/-- The diagnostic of a miss. -/
def diagnostic (r : Record) (m : Miss) : Diagnostic where
  code := r.code
  message := m.message
  severity := r.severity
  module := some r.module
  location := m.location
  key := some m.key
  hint := some (r.severity.missHint m.key)

/-- One diagnostic for each miss. -/
def diagnostics (r : Record) : List Diagnostic := r.misses.map r.diagnostic

/-- A record as messages show it. -/
def shown (r : Record) : String :=
  let keys := match r.keys with
    | [key] => Text.quoted key ++ ","
    | keys => ", ".intercalate (keys.map Text.quoted)
  "MissingLocalizationError(module=" ++ Text.quoted r.module ++ ", severity=" ++
    Text.quoted r.severity.text ++ ", keys=(" ++ keys ++ "))"

end Record

end Localize
