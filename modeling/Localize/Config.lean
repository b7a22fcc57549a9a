/-
  The configuration of folding: the sources that localizations come from, and the name of the
  function whose calls are folded. It is checked when it is made.
-/
import Localize.Source.Basic
import Localize.Diagnostic.Format
import Localize.Syntax.Grammar.Basic
import Localize.Text.Identifier

namespace Localize

/-- What is given as a source: nothing, a source, a function, or a value, of which maps make a
source. -/
inductive Given where
  | nothing
  | source (s : Source)
  | function (name : String) (lookup : String → Except LookupFault Value)
  | value (v : Value)

/-- The name of the folded function where none is given. -/
def defaultFunctionName : String := "__"

/-- The diagnostic of a value that makes no source. -/
def invalidSource (v : Value) : Diagnostic where
  code := .invalidSourceType
  message := "Localization source must be a mapping or a callable, got " ++ v.typeName
  hint := some "Pass a nested dict of strings or a function taking the key"

/-- The source that is given, under a label if there is one. A source that is made already keeps
its name. -/
def Given.source? (label : Option String) : Given → Except Diagnostic (Option Source)
  | nothing => .ok none
  | source s => .ok (some s)
  | function name lookup => .ok (some (.function ((label.filter (· ≠ "")).getD name) lookup))
  | value .null => .ok none
  | value (.map entries) => .ok (some (.ofMap ((label.filter (· ≠ "")).getD "mapping") entries))
  | value (.view entries) => .ok (some (.ofMap ((label.filter (· ≠ "")).getD "mapping") entries))
  | value v => .error (invalidSource v)

/-- The configuration of folding. -/
structure Config where
  /-- The source that is asked first. Without it every call folds to its default text. -/
  primary : Option Source := none
  functionName : String := defaultFunctionName
  /-- The source that is asked for what the first one misses. -/
  fallback : Option Source := none

namespace Config

/-- Whether a text can be the name of a function. -/
def isFunctionName (name : String) : Bool := Text.isIdentifier name.toList && !Syntax.isKeyword name

/-- The diagnostic of a value that is no name of a function. -/
def invalidFunctionName (v : Value) : Diagnostic where
  code := .invalidFunctionName
  message := "Function name must be a Python identifier, got " ++ v.shown
  hint := some s!"Use the name your code calls, e.g. '{defaultFunctionName}' or '_'"

/-- The configuration with what is given, if all of it can be used. -/
def of (primary fallback : Given) (functionName : Value) : Except Diagnostic Config := do
  let primary ← primary.source? (some "localization")
  let fallback ← fallback.source? (some "fallback")
  match functionName with
  | .text name =>
    if isFunctionName name then return { primary, functionName := name, fallback }
    else throw (invalidFunctionName functionName)
  | _ => throw (invalidFunctionName functionName)

/-- Whether there is a source to ask at all. -/
def enabled (c : Config) : Bool := c.primary.isSome

/-- A configuration as messages show it. -/
def shown (c : Config) : String :=
  let name (s : Option Source) : String := match s with
    | some s => Text.quoted s.name
    | none => "None"
  "I18nPlugin(localization=" ++ name c.primary ++ ", function_name=" ++
    Text.quoted c.functionName ++ ", fallback=" ++ name c.fallback ++ ")"

end Config

end Localize
