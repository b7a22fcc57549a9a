/-
  What happens during a run that may be reported: each event has a level, the part of the program
  that it comes from, and a text.
-/
import Localize.Diagnostic.Basic

namespace Localize

/-- How important an event is. -/
inductive Level where
  | debug
  | info
  | warning
deriving DecidableEq, Repr

namespace Level

/-- The word for a level. -/
def text : Level → String
  | debug => "DEBUG"
  | info => "INFO"
  | warning => "WARNING"

/-- The rank of a level; higher is more important. -/
def rank : Level → Nat
  | debug => 0
  | info => 1
  | warning => 2

end Level

/-- An event. -/
inductive Event where
  /-- A map of localizations was loaded, with a number of keys at the top. -/
  | loadedMap (path : String) (count : Nat)
  /-- A message catalog was loaded, with a number of messages kept. -/
  | loadedCatalog (path : String) (count : Nat)
  /-- A key was folded without any source. -/
  | unlocalized (key : String)
  /-- A key was missed for the first time. -/
  | missed (severity : Severity) (module key : String)
  | parseFailed (module reason : String)
  /-- Calls in a module lie deeper than the limit. -/
  | tooNested (module : String) (limit : Int) (count : Nat)
  /-- A module was folded, with the number of calls and of those that the first source missed. -/
  | folded (module : String) (count missed : Nat)
  /-- Modules were built, with the numbers of records. -/
  | built (modules warnings errors : Nat)
  | wrote (path : String) (changed : Bool)
deriving DecidableEq, Repr

namespace Event

/-- How important an event is. -/
def level : Event → Level
  | parseFailed .. | tooNested .. => .warning
  | built .. | wrote .. => .info
  | _ => .debug

/-- Where an event comes from. -/
def origin : Event → String
  | loadedMap .. | loadedCatalog .. => "i18nfold.loading"
  | unlocalized _ => "i18nfold.transform.fallback"
  | missed .. => "i18nfold.diagnostics.aggregator"
  | parseFailed .. | tooNested .. | folded .. | built .. => "i18nfold.compilation"
  | wrote .. => "i18nfold.cli"

/-- The text of an event. -/
def text : Event → String
  | loadedMap path count => s!"Loaded JSON localization {path} ({count} top-level keys)"
  | loadedCatalog path count => s!"Loaded catalog {path} ({count} translated messages)"
  | unlocalized key => s!"No localization source; folding '{key}' to its default text"
  | missed severity module key => s!"Missing {severity.text} in {module}: {key}"
  | parseFailed module reason => s!"Failed to parse {module}: {reason}"
  | tooNested module limit count =>
    s!"Nesting in {module} exceeds {limit} levels; {count} call(s) not folded"
  | folded module count misses => s!"Folded {count} call(s) in {module} ({misses} missed primary)"
  | built count warnings errors =>
    s!"Built {count} module(s): {warnings} warning record(s), {errors} error record(s)"
  | wrote path changed => s!"Wrote {path}" ++ if changed then "" else " (unchanged)"

/-- The line that reports an event. -/
def line (e : Event) : String := e.level.text ++ " " ++ e.origin ++ ": " ++ e.text

end Event

end Localize
