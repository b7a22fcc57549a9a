/-
  Texts of diagnostics in three styles: compiler-like with lines for place and help, one line each,
  and one JSON object each.
-/
import Localize.Diagnostic.Basic
import Localize.Json.Writer

namespace Localize

/-- The styles that diagnostics are written in. -/
inductive Style where
  | rust
  | simple
  | json
deriving DecidableEq, Repr

namespace Style

/-- The word for a style. -/
def text : Style → String
  | rust => "rust"
  | simple => "simple"
  | json => "json"

/-- The style with a name. -/
def ofText? (name : String) : Option Style := [rust, simple, json].find? (·.text = name)

/-- What stands between two diagnostics. -/
def separator : Style → String
  | rust => "\n\n"
  | simple => "\n"
  | json => "\n"

end Style

/-- How diagnostics are written: the style, whether the severity is coloured, and the length that
messages and hints are cut at. Length zero stands for no limit; a negative one counts from the end
of the text. -/
structure Formatter where
  style : Style := .rust
  color : Bool := false
  maxLength : Int := 0
deriving DecidableEq, Repr

namespace Formatter

/-- A text cut at the limit, with dots in place of what is cut off. -/
def cut (f : Formatter) (text : String) : String :=
  let cs := text.toList
  if f.maxLength = 0 || (cs.length : Int) ≤ f.maxLength then text
  else
    let kept := if f.maxLength < 0 then (cs.length + f.maxLength).toNat else f.maxLength.toNat
    String.ofList (cs.take kept) ++ "..."

/-- A text, unless it is empty. -/
def nonempty (text : Option String) : Option String := text.filter (· ≠ "")

/-- Where a diagnostic points: module and location, or what is known of them. -/
def place (d : Diagnostic) : Option String :=
  match nonempty d.module, d.location with
  | some m, some l => some (m ++ ":" ++ l.text)
  | some m, none => some m
  | none, some l => some s!"line {l.line}, column {l.column}"
  | none, none => none

/-- The colour of a severity: red or yellow, both bold. -/
def colorCode : Severity → String
  | .error => "\x1b[1;31m"
  | .warning => "\x1b[1;33m"

/-- The word for a severity in the compiler-like style. -/
def severityText (f : Formatter) (s : Severity) : String :=
  if f.color then colorCode s ++ s.text ++ "\x1b[0m" else s.text

/-- The lines of a diagnostic in the compiler-like style. -/
def rustLines (f : Formatter) (d : Diagnostic) : List String :=
  let heading := f.severityText d.severity ++ "[" ++ d.code.text ++ "]: " ++ f.cut d.message
  let pointer := (place d).map ("  --> " ++ ·)
  let help := (nonempty d.hint).map fun hint => "  = help: " ++ f.cut hint
  heading :: (pointer.toList ++ help.toList)

/-- The entries of a diagnostic as a JSON object. -/
def entries (f : Formatter) (d : Diagnostic) : List (String × Value) :=
  [("code", .text d.code.text), ("code_value", .int d.code.number),
   ("message", .text (f.cut d.message)), ("severity", .text d.severity.text)] ++
  ((nonempty d.module).map fun m => ("module", Value.text m)).toList ++
  (match d.location with
   | some l => [("line", .int l.line), ("column", .int l.column), ("end_line", .int l.endLine),
      ("end_column", .int l.endColumn)]
   | none => []) ++
  (d.key.map fun key => ("key", Value.text key)).toList ++
  ((nonempty d.hint).map fun hint => ("hint", Value.text (f.cut hint))).toList

/-- The text of a diagnostic. -/
def format (f : Formatter) (d : Diagnostic) : String :=
  match f.style with
  | .rust => "\n".intercalate (f.rustLines d)
  | .simple =>
    let front := match place d with
      | some p => p ++ ": "
      | none => ""
    front ++ d.code.text ++ ": " ++ f.cut d.message
  | .json => Json.write (.map (f.entries d))

/-- The text of several diagnostics. -/
def formatAll (f : Formatter) (ds : List Diagnostic) : String :=
  f.style.separator.intercalate (ds.map f.format)

end Formatter

/-- The text of a diagnostic where nothing is said about its style. -/
def Diagnostic.text (d : Diagnostic) : String := Formatter.format {} d

end Localize
