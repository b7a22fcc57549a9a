/-
  Compilations: modules built under one configuration. Building a module opens its window, reads
  and scans its tree, renders the substitutions, and seals the window. A module that cannot be read
  keeps its text and carries the diagnostic; a fault of a source ends the build with the window
  still open.
-/
import Localize.Diagnostic.Aggregator
import Localize.Fold.Scan
import Localize.Text.Excerpt
import Localize.Text.Split

namespace Localize

open Syntax

/-- What kept a module from being built in full. -/
inductive BuildErrorKind where
  | parse
  | nesting
deriving DecidableEq, Repr

/-- A failure that is reported with the module instead of ending the build. -/
structure BuildError where
  kind : BuildErrorKind
  module : String
  diagnostic : Diagnostic
deriving DecidableEq, Repr

/-- A built module. -/
structure Module where
  id : String
  source : String
  output : String
  /-- The substitutions in visiting order. Their ranges do not count a byte order mark. -/
  dependencies : List Substitution := []
  buildErrors : List BuildError := []
  /-- The records of the scan, one for each severity at most. -/
  warnings : Option Record := none
  errors : Option Record := none
deriving Repr

namespace Module

/-- Whether building has changed the text. -/
def changed (m : Module) : Bool := m.output ≠ m.source

/-- The records, warnings first. -/
def records (m : Module) : List Record := m.warnings.toList ++ m.errors.toList

/-- All diagnostics of a module: build errors, then misses. -/
def diagnostics (m : Module) : List Diagnostic :=
  m.buildErrors.map BuildError.diagnostic ++ m.records.flatMap Record.diagnostics

end Module

/-- Why a build ends without a module. -/
inductive BuildFault where
  | scan (f : ScanFault)
  | position (e : PositionError)
  | render (f : Substitution.Fault)
  /-- The text has a null character. -/
  | nullCharacter
deriving Repr

/-- The wording of a fault. -/
def BuildFault.message : BuildFault → String
  | scan (.fold (.lookup f)) => f.message
  | scan (.fold (.closed f)) => f.message
  | scan (.fold (.position e)) => e.message
  | scan (.nesting f) => f.message
  | scan (.write f) => f.message
  | position e => e.message
  | render f => f.message
  | nullCharacter => "source code string cannot contain null bytes"

/-- The mark that may stand in front of a text. -/
def byteOrderMark : Char := '\ufeff'

/-- The byte order mark of a text, if it has one, and the rest. -/
def splitMark : List Char → List Char × List Char
  | [] => ([], [])
  | c :: rest => if c = byteOrderMark then ([c], rest) else ([], c :: rest)

namespace BuildError

/-- The location of a failure to read a module, where the line of it is known. -/
def location? (line column : Option Int) : Option Location :=
  match line with
  | some n => if n ≥ 1 then some (.point n.toNat (column.getD 1).toNat) else none
  | none => none

/-- The failure to read a module, for a reason and at a place if there is one. -/
def parse (module reason : String) (location : Option Location) : BuildError where
  kind := .parse
  module := module
  diagnostic := {
    code := .moduleParseFailed
    message := "Cannot parse module: " ++ reason
    module := some module
    location := location
    hint := some "The module is emitted unchanged" }

/-- Calls beyond the limit on nesting, of which the first one is at a location. -/
def nesting (module : String) (limit : Int) (count : Nat) (location : Location) : BuildError where
  kind := .nesting
  module := module
  diagnostic := {
    code := .nestingLimitExceeded
    message := s!"{count} call(s) nested deeper than the {limit}-level traversal limit were not folded"
    module := some module
    location := some location
    hint := some "Split the expression so the calls sit at a shallower depth" }

end BuildError

/-- How many characters begin within a number of bytes. The end of the text counts as one. -/
def charactersWithin : Nat → List Char → Nat
  | 0, _ => 0
  | _ + 1, [] => 1
  | n + 1, c :: rest => 1 + charactersWithin (n + 1 - c.utf8Size) rest

/-- The text in which the column of a fault is counted: the line of the file that stands under the
name of the module, or else the lines of the source. What is found while tokens are read is counted
in the source alone. -/
def faultText (index : LineIndex) (file : Option Text.Bytes) (r : Syntax.Refusal) : List Char :=
  let line := r.fault.point.line
  let lead := r.origin.line
  let own := Text.unifyLineEnds ((index.lines.drop (lead - 1)).take (line + 1 - lead)).flatten
  if r.fault.cause.wins then own else (file.bind (Text.shownLine · line)).getD own

/-- The location of a syntax fault. Nesting beyond all limits has none. -/
def faultLocation (index : LineIndex) (file : Option Text.Bytes) (r : Syntax.Refusal) :
    Option Location :=
  match r.fault.cause with
  | .tooDeep => none
  | .treeTooDeep => none
  | _ =>
    let text := faultText index file r
    let column := charactersWithin (r.fault.point.byte + 1) text - charactersWithin r.origin.byte text
    BuildError.location? (some r.fault.point.line) (some column)

/-- An attempt to build a module: its result, and what was written until then. The events come with
the last one first. -/
structure Attempt where
  result : Except BuildFault Module
  window : Window
  events : List Event

/-- The build errors for the calls of a scan that lie beyond the limit. -/
def nestingErrors (id : String) (index : LineIndex) (limit : Int) (skipped : List Span) :
    Except PositionError (List BuildError) :=
  match skipped with
  | [] => .ok []
  | first :: _ => do
    let location ← index.locationOfSpan first
    return [.nesting id limit skipped.length location]

/-- The module of a scan that has come to its end. -/
def moduleOf (id source : String) (mark text : List Char) (index : LineIndex) (scan : Scan) :
    Except BuildFault Module := do
  let dependencies := scan.substitutions.reverse
  let buildErrors ←
    (nestingErrors id index scan.guard.limit scan.skipped.reverse).mapError BuildFault.position
  let rendered ← (Substitution.render text dependencies).mapError BuildFault.render
  return {
    id := id
    source := source
    output := String.ofList (mark ++ rendered)
    dependencies := dependencies
    buildErrors := buildErrors }

/-- What is reported of a finished scan. -/
def scanEvents (id : String) (scan : Scan) : List Event :=
  let misses := scan.substitutions.filter (·.outcome.missesPrimary)
  let nesting := if scan.skipped.isEmpty then []
    else [Event.tooNested id scan.guard.limit scan.skipped.length]
  .folded id scan.substitutions.length misses.length :: nesting

/-- Builds the tree of a text, which stands behind a mark. -/
def buildTree (config : Config) (id source : String) (mark text : List Char) (index : LineIndex)
    (window : Window) (tree : Node) : Attempt :=
  let (end_, scan) := Scan.ofTree config index Guard.traversal window tree
  let journal := scan.journal
  match end_ with
  | .error f => ⟨.error (.scan f), journal.window, journal.events⟩
  | .ok () =>
    match moduleOf id source mark text index scan with
    | .error f => ⟨.error f, journal.window, journal.events⟩
    | .ok m => ⟨.ok m, journal.window, scanEvents id scan ++ journal.events⟩

/-- Builds a module up to the sealing of its window; `file` is what stands under its name. -/
def buildText (config : Config) (id source : String) (file : Option Text.Bytes) (window : Window) :
    Attempt :=
  let (mark, text) := splitMark source.toList
  if text.contains '\x00' then ⟨.error .nullCharacter, window, []⟩
  else
    let index : LineIndex := ⟨text, splitLines text, flatten_splitLines text⟩
    match parseModule text with
    | .error refusal =>
      let cause := refusal.fault.cause
      let error := BuildError.parse id cause.message (faultLocation index file refusal)
      let module : Module := { id := id, source := source, output := source, buildErrors := [error] }
      ⟨.ok module, window, [.parseFailed id cause.brief]⟩
    | .ok tree => buildTree config id source mark text index window tree

/-- A compilation: its configuration, the files that stand under names of modules where it runs, all
windows, the modules by the order of their first builds, and the events so far, the last one first. -/
structure Compilation where
  config : Config
  files : List (String × Text.Bytes) := []
  aggregator : Aggregator := {}
  modules : List (String × Module) := []
  events : List Event := []

namespace Compilation

/-- Builds a module without storing it: opens its window, builds, and seals. -/
def build (c : Compilation) (id source : String) : Compilation × Except BuildFault Module :=
  let (aggregator, number) := c.aggregator.openWindow id
  let attempt := buildText c.config id source (valueAt? id c.files) (aggregator.window number)
  let c := { c with
    aggregator := aggregator.put number attempt.window, events := attempt.events ++ c.events }
  match attempt.result with
  | .error f => (c, .error f)
  | .ok m =>
    let m := { m with warnings := attempt.window.warnings, errors := attempt.window.errors }
    ({ c with aggregator := c.aggregator.close number }, .ok m)

/-- Stores a module under its name. -/
def store (c : Compilation) (m : Module) : Compilation :=
  { c with modules := setEntry m.id m c.modules }

/-- Builds one module. -/
def buildModule (c : Compilation) (id source : String) : Compilation × Except BuildFault Module :=
  let c := { c with aggregator := (c.aggregator.openWindow id).1 }
  match c.build id source with
  | (c, .ok m) => (c.store m, .ok m)
  | (c, .error f) => (c, .error f)

/-- Builds some modules, whatever they come to. -/
def finish (c : Compilation) (sources : List (String × String)) : Compilation :=
  sources.foldl (fun c source => (c.build source.1 source.2).1) c

/-- Builds modules in their order. The first fault ends this: of the modules behind it those are still
built that have been begun by then, and the others are cancelled. -/
def buildAll (c : Compilation) (begun : String → Bool) :
    List (String × String) → Compilation × Except BuildFault (List Module)
  | [] => (c, .ok [])
  | (id, source) :: rest =>
    match c.build id source with
    | (c, .error f) => (c.finish (rest.filter (begun ·.1)), .error f)
    | (c, .ok m) =>
      match c.buildAll begun rest with
      | (c, .ok ms) => (c, .ok (m :: ms))
      | (c, .error f) => (c, .error f)

/-- Whether modules are built one after the other, so that none is begun before the one in front of it is
done. -/
def inTurn (sources : List (String × String)) (workers : Int) : Bool :=
  workers ≤ 1 || sources.length ≤ 1

/-- Builds several modules by a number of workers. All windows are opened first; modules are stored
when all are built. Which modules the workers have `begun` when one in front of them fails is up to the
machine. -/
def buildModules (c : Compilation) (sources : List (String × String)) (workers : Int)
    (begun : String → Bool := fun _ => true) : Compilation × Except BuildFault (List Module) :=
  let aggregator := sources.foldl (fun a (id, _) => (a.openWindow id).1) c.aggregator
  let c := { c with aggregator := aggregator }
  let (c, result) := c.buildAll (fun id => !inTurn sources workers && begun id) sources
  match result with
  | .error f => (c, .error f)
  | .ok ms =>
    let c := ms.foldl store c
    let built := Event.built ms.length (c.aggregator.records .warning).length
      (c.aggregator.records .error).length
    ({ c with events := built :: c.events }, .ok ms)

/-- The failures of all modules. -/
def buildErrors (c : Compilation) : List BuildError := c.modules.flatMap (·.2.buildErrors)

/-- Whether a key is missed everywhere or a module could not be built in full. -/
def hasErrors (c : Compilation) : Bool := c.aggregator.hasErrors || !c.buildErrors.isEmpty

/-- The diagnostics of modules. -/
def collect (modules : List Module) : List Diagnostic := modules.flatMap Module.diagnostics

/-- The diagnostics of all modules. -/
def diagnostics (c : Compilation) : List Diagnostic := collect (c.modules.map (·.2))

end Compilation

end Localize
