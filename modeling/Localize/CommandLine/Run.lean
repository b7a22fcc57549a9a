/-
  Runs of the command line: arguments, settings, sources and modules are read before anything is
  built, and everything is built before anything is written. What is reported comes in the order in
  which it happens. A run ends with 0, with 1 for errors under the strict option, or with 2 when nothing
  can be built.
-/
import Localize.CommandLine.Arguments
import Localize.CommandLine.Input
import Localize.Compilation
import Localize.Settings
import Localize.Source.Template

namespace Localize.CommandLine

/-- What a run takes from the machine that it runs on: the readers of catalogs, and which modules its workers
have begun when one in front of them fails. -/
structure Host where
  readers : Catalog.Readers := .atHand
  begun : String → Bool := fun _ => true

/-! ## Preparation -/

/-- Why nothing can be built. -/
inductive PrepareFault where
  | settings (f : SettingsFault)
  | load (f : LoadFault)
  | template (f : TemplateFault)
  | config (d : Diagnostic)
  | input (f : InputFault)

/-- The line for a fault without a diagnostic. -/
def plainLine (message : String) : String := "i18nfold: " ++ message

/-- The report of a fault. -/
def PrepareFault.report (formatter : Formatter) : PrepareFault → String
  | settings f => plainLine f.message
  | load (.source path reason) => formatter.format (reason.diagnostic path)
  | load f => plainLine f.message
  | template (.load (.source path reason)) => formatter.format (reason.diagnostic path)
  | template f => plainLine f.message
  | config d => formatter.format d
  | input f => plainLine f.message

/-- What a run builds. -/
structure Prepared where
  config : Config
  outDir : Option Path
  inputs : List Input

/-- The settings of a run: what the options say, and where they are silent what the project file says.
An empty text in an option says nothing. -/
def settingsOf (tree : Tree) (o : Options) : Except SettingsFault Settings := do
  let file ← match o.config with
    | some path => Settings.read tree path
    | none => pure {}
  return {
    localization := o.localization.or file.localization
    fallback := o.fallback.or file.fallback
    functionName := (o.functionName.filter (· ≠ "")).getD file.functionName
    outDir := o.outDir.or file.outDir
    locale := (o.locale.filter (· ≠ "")).or file.locale }

/-- Loads a source. A path with the placeholder is a template where there is a locale. -/
def loadSource (host : Host) (tree : Tree) (locale : Option String) (path : Path) :
    Except PrepareFault Source.Loaded :=
  match locale with
  | some locale =>
    if Template.hasPlaceholder path.text then do
      let template ← (Template.of tree.home path.text none).mapError PrepareFault.template
      (template.load true tree locale host.readers).mapError .template
    else (Source.load true tree path host.readers).mapError .load
  | none => (Source.load true tree path host.readers).mapError .load

/-- Loads a source if there is one. -/
def loadSource? (host : Host) (tree : Tree) (locale : Option String) :
    Option Path → Except PrepareFault (Option Source.Loaded)
  | none => .ok none
  | some path => (loadSource host tree locale path).map some

/-- What is given as a source by one that may have been loaded. -/
def givenOf : Option Source.Loaded → Given
  | none => .nothing
  | some loaded => .source loaded.source

/-- The events of a source that may have been loaded. -/
def eventsOf (loaded : Option Source.Loaded) : List Event := loaded.toList.map (·.event)

/-- Reads the modules of a run under its settings. -/
def prepareInputs (tree : Tree) (o : Options) (settings : Settings)
    (primary fallback : Option Source.Loaded) : Except PrepareFault Prepared := do
  let config ← (Config.of (givenOf primary) (givenOf fallback) (.text settings.functionName)).mapError
    PrepareFault.config
  let modules ← (collect tree o.sources).mapError PrepareFault.input
  let inputs ← (readModules tree modules).mapError PrepareFault.input
  return { config, outDir := settings.outDir, inputs }

/-- Reads all that a run builds, with the events on the way. -/
def prepare (tree : Tree) (o : Options) (host : Host := {}) :
    List Event × Except PrepareFault Prepared :=
  match settingsOf tree o with
  | .error f => ([], .error (.settings f))
  | .ok settings =>
    match loadSource? host tree settings.locale settings.localization with
    | .error f => ([], .error f)
    | .ok primary =>
      match loadSource? host tree settings.locale settings.fallback with
      | .error f => (eventsOf primary, .error f)
      | .ok fallback =>
        (eventsOf primary ++ eventsOf fallback, prepareInputs tree o settings primary fallback)

/-! ## Writing -/

/-- The encoding of the input with a name. -/
def encodingOf (inputs : List Input) (id : String) : Text.Encoding :=
  ((inputs.find? (·.id = id)).map (·.encoding)).getD .utf8

/-- Writes a built module in an encoding. -/
def writeModule (tree : Tree) (outDir : Path) (encoding : Text.Encoding) (m : Module) :
    Tree × Except FileFault Event :=
  let target := outDir.append (.ofText m.id)
  match tree.makeDirectories target.parent with
  | (tree, .error f) => (tree, .error f)
  | (tree, .ok ()) =>
    match tree.write target (encoding.encode m.output.toList) with
    | .error f => (tree, .error f)
    | .ok tree => (tree, .ok (.wrote target.text m.changed))

/-- Writes built modules one after the other, up to the first failure. -/
def writeModules (tree : Tree) (outDir : Path) (inputs : List Input) :
    List Module → Tree × List Event × Except FileFault Unit
  | [] => (tree, [], .ok ())
  | m :: rest =>
    match writeModule tree outDir (encodingOf inputs m.id) m with
    | (tree, .error f) => (tree, [], .error f)
    | (tree, .ok event) =>
      let (tree, events, result) := writeModules tree outDir inputs rest
      (tree, event :: events, result)

/-! ## Runs -/

/-- Why a run breaks off. -/
inductive RunFault where
  /-- The style of reports was taken back. -/
  | noStyle
  /-- The number of jobs was taken back. -/
  | noJobs
  | settings (f : SettingsFault)
  | build (f : BuildFault)
  | file (f : FileFault)

/-- The wording of a fault. -/
def RunFault.message : RunFault → String
  | noStyle => "[] is not a valid OutputFormat"
  | noJobs => "'<=' not supported between instances of 'list' and 'int'"
  | settings f => f.message
  | build f => f.message
  | file f => f.message

/-- What a run leaves behind. -/
structure Run where
  /-- What it reports. -/
  reports : List String
  tree : Tree
  /-- Its exit code, unless it breaks off. -/
  exit : Except RunFault Nat

/-- The text of what a run reports. -/
def Run.text (r : Run) : String := "".intercalate (r.reports.map (· ++ "\n"))

/-- How the command line is used. -/
def usage : List String :=
  ["usage: i18nfold [-h] [-l LOCALIZATION] [-f FALLBACK] [--locale LOCALE]",
   "                [-n FUNCTION_NAME] [-o OUT_DIR] [--config CONFIG]",
   "                [--format \x7brust,simple,json\x7d] [--strict] [-j JOBS] [-v]",
   "                sources [sources ...]"]

/-- The rank that events have to have at least to be reported. -/
def leastRank : Nat → Nat
  | 0 => Level.warning.rank
  | 1 => Level.info.rank
  | _ => Level.debug.rank

/-- The lines of events that are reported. -/
def linesOf (verbosity : Nat) (events : List Event) : List String :=
  (events.filter fun e => leastRank verbosity ≤ e.level.rank).map Event.line

/-- The files that stand under the names of inputs. -/
def filesNamed (tree : Tree) (inputs : List Input) : List (String × Text.Bytes) :=
  inputs.filterMap fun i => (tree.read (.ofText i.id)).toOption.map (i.id, ·)

/-- Builds what has been prepared by a number of jobs, and writes it if there is a directory for
it. -/
def build (tree : Tree) (o : Options) (formatter : Formatter) (jobs : Int) (p : Prepared)
    (host : Host := {}) : Run :=
  let start : Compilation := { config := p.config, files := filesNamed tree p.inputs }
  let (c, built) := start.buildModules
    (p.inputs.map fun i => (i.id, i.text)) jobs host.begun
  let lines := linesOf o.verbosity c.events.reverse
  match built with
  | .error f => ⟨lines, tree, .error (.build f)⟩
  | .ok modules =>
    let (tree, events, written) := match p.outDir with
      | some outDir => writeModules tree outDir p.inputs modules
      | none => (tree, [], .ok ())
    let lines := lines ++ linesOf o.verbosity events
    match written with
    | .error f => ⟨lines, tree, .error (.file f)⟩
    | .ok () =>
      let diagnostics := Compilation.collect modules
      let report := if diagnostics.isEmpty then [] else [formatter.formatAll diagnostics]
      ⟨lines ++ report, tree, .ok (if o.strict && c.hasErrors then 1 else 0)⟩

/-- Runs under options, with a formatter for the reports. -/
def runOptions (tree : Tree) (o : Options) (formatter : Formatter) (host : Host := {}) : Run :=
  let (events, prepared) := prepare tree o host
  let lines := linesOf o.verbosity events
  match prepared with
  | .error (.settings f) =>
    if f.breaksOff then ⟨lines, tree, .error (.settings f)⟩
    else ⟨lines ++ [(PrepareFault.settings f).report formatter], tree, .ok 2⟩
  | .error f => ⟨lines ++ [f.report formatter], tree, .ok 2⟩
  | .ok p =>
    match o.jobs with
    | none => ⟨lines, tree, .error .noJobs⟩
    | some jobs =>
      let r := build tree o formatter jobs p host
      { r with reports := lines ++ r.reports }

/-- Runs the command line on a tree. -/
def run (tree : Tree) (arguments : List String) (host : Host := {}) : Run :=
  match Options.of arguments with
  | .error .help => ⟨[], tree, .ok 0⟩
  | .error (.fault f) => ⟨usage ++ ["i18nfold: error: " ++ f.message], tree, .ok 2⟩
  | .ok o =>
    match o.style with
    | none => ⟨[], tree, .error .noStyle⟩
    | some style => runOptions tree o { style } host

end Localize.CommandLine
