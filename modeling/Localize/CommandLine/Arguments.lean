/-
  Arguments of the command line: options by a long or a short name, and sources. Long names may be cut
  short as long as one option begins that way; short names may share one dash, and values may be
  attached. Behind two dashes all is a source. Only the first run of sources counts; the ones behind a
  later option are too many.
-/
import Localize.Diagnostic.Format
import Localize.File.Path
import Localize.Number.Integer

namespace Localize.CommandLine

open Localize.Text

/-! ## Options -/

/-- The options. -/
inductive Flag where
  | help
  | localization
  | fallback
  | locale
  | functionName
  | outDir
  | config
  | format
  | strict
  | jobs
  | verbose
deriving DecidableEq, Repr

namespace Flag

/-- All options. -/
def all : List Flag :=
  [help, localization, fallback, locale, functionName, outDir, config, format, strict, jobs, verbose]

/-- The names of an option. -/
def names : Flag → List String
  | help => ["-h", "--help"]
  | localization => ["-l", "--localization"]
  | fallback => ["-f", "--fallback"]
  | locale => ["--locale"]
  | functionName => ["-n", "--function-name"]
  | outDir => ["-o", "--out-dir"]
  | config => ["--config"]
  | format => ["--format"]
  | strict => ["--strict"]
  | jobs => ["-j", "--jobs"]
  | verbose => ["-v", "--verbose"]

/-- Whether an option has a value. -/
def takesValue : Flag → Bool
  | help | strict | verbose => false
  | _ => true

/-- The option with a name. -/
def named? (name : String) : Option Flag := all.find? (·.names.contains name)

/-- All names with their options. -/
def spellings : List (String × Flag) := all.flatMap fun flag => flag.names.map (·, flag)

end Flag

/-- What the arguments ask for. What has a value at first can be taken back, as all values can. -/
structure Options where
  sources : List Path := []
  localization : Option Path := none
  fallback : Option Path := none
  locale : Option String := none
  functionName : Option String := none
  outDir : Option Path := none
  config : Option Path := none
  style : Option Style := some .rust
  strict : Bool := false
  jobs : Option Int := some 1
  verbosity : Nat := 0
deriving DecidableEq, Repr

/-- Why arguments are refused. -/
inductive UsageFault where
  | ambiguous (argument : String) (candidates : List String)
  | noValue (flag : Flag)
  /-- A value is attached to an option that has none. -/
  | attached (flag : Flag) (value : String)
  | integer (value : String)
  | choice (value : String)
  | noSources
  | unrecognized (arguments : List String)
deriving DecidableEq, Repr

/-- The names of the styles. -/
def styleNames : List String := [Style.rust, .simple, .json].map Style.text

/-- The wording of a fault. -/
def UsageFault.message : UsageFault → String
  | ambiguous argument candidates =>
    s!"ambiguous option: {argument} could match " ++ ", ".intercalate candidates
  | noValue flag => "argument " ++ "/".intercalate flag.names ++ ": expected one argument"
  | attached flag value =>
    "argument " ++ "/".intercalate flag.names ++ ": ignored explicit argument " ++ quoted value
  | integer value =>
    "argument " ++ "/".intercalate Flag.jobs.names ++ ": invalid int value: " ++ quoted value
  | choice value =>
    "argument " ++ "/".intercalate Flag.format.names ++ ": invalid choice: " ++ quoted value ++
      " (choose from " ++ ", ".intercalate (styleNames.map quoted) ++ ")"
  | noSources => "the following arguments are required: sources"
  | unrecognized arguments => "unrecognized arguments: " ++ " ".intercalate arguments

/-- Why arguments give no options: help is asked for, or they are refused. -/
inductive Stop where
  | help
  | fault (f : UsageFault)
deriving DecidableEq, Repr

/-! ## Words -/

/-- What an argument is on its own. -/
inductive Word where
  | plain
  /-- Two dashes. -/
  | dashes
  /-- An option by a name of one letter or more, and the text that is attached to the name. -/
  | option (flag : Flag) (short : Bool) (attached : Option (List Char))
  /-- An option that there is not. -/
  | unknown
deriving DecidableEq, Repr

/-- Whether characters are digits, with or without a line feed behind them. -/
def endsInDigits (cs : List Char) : Bool :=
  let rest := cs.dropWhile fun c => (decimalDigit? c).isSome
  rest.length < cs.length && (rest.isEmpty || rest = ['\n'])

/-- Whether an argument is a negative number. -/
def isNegativeNumber : List Char → Bool
  | '-' :: number =>
    endsInDigits number || match number.dropWhile fun c => (decimalDigit? c).isSome with
      | '.' :: fraction => endsInDigits fraction
      | _ => false
  | _ => false

/-- The options that a long name stands for when it may be cut short. -/
def candidates (name : String) : List (String × Flag) :=
  Flag.spellings.filter fun s => name.toList.isPrefixOf s.1.toList

/-- What an argument with a dash in front is, if it is no name of an option as it stands. -/
def wordOfDashed (argument : String) (cs : List Char) : Except UsageFault Word :=
  let (name, value) := splitFirst (· = '=') cs
  match value.bind fun _ => Flag.named? (String.ofList name) with
  | some flag => .ok (.option flag (!"--".toList.isPrefixOf cs) value)
  | none =>
    let other : Word :=
      if isNegativeNumber cs || cs.contains ' ' then .plain else .unknown
    if "--".toList.isPrefixOf cs then
      match candidates (String.ofList name) with
      | [] => .ok other
      | [(_, flag)] => .ok (.option flag false value)
      | several => .error (.ambiguous argument (several.map (·.1)))
    else match Flag.named? (String.ofList (cs.take 2)) with
      | some flag => .ok (.option flag true (some (cs.drop 2)))
      | none => .ok other

/-- What an argument is. -/
def wordOf (argument : String) : Except UsageFault Word :=
  match argument.toList with
  | '-' :: rest =>
    match Flag.named? argument with
    | some flag => .ok (.option flag (rest.head? ≠ some '-') none)
    | none => if rest.isEmpty then .ok .plain else wordOfDashed argument ('-' :: rest)
  | _ => .ok .plain

/-- The arguments with what they are. Behind two dashes all are plain. -/
def wordsOf : List String → Except UsageFault (List (String × Word))
  | [] => .ok []
  | argument :: rest => do
    if argument = "--" then return ("--", .dashes) :: rest.map (·, .plain)
    let word ← wordOf argument
    return (argument, word) :: (← wordsOf rest)

/-! ## Reading -/

/-- What an argument asks for: options with their values, of which the last one may still want its
value. -/
structure Request where
  settings : List (Flag × String) := []
  wanting : Option Flag := none
deriving DecidableEq, Repr

/-- The request of an option on its own. -/
def Request.of (flag : Flag) : Request :=
  if flag.takesValue then { wanting := some flag } else { settings := [(flag, "")] }

/-- The request of an option with an attached text, which is its value or, behind a short name, more
short names. -/
def requestOf (flag : Flag) (short : Bool) : List Char → Except UsageFault Request
  | [] =>
    if flag.takesValue then .ok { settings := [(flag, "")] } else .error (.attached flag "")
  | c :: rest =>
    if flag.takesValue then .ok { settings := [(flag, String.ofList (c :: rest))] }
    else match if short then Flag.named? (String.ofList ['-', c]) else none with
      | none => .error (.attached flag (String.ofList (c :: rest)))
      | some next => do
        let more ← if rest.isEmpty then pure (.of next) else requestOf next true rest
        return { more with settings := (flag, "") :: more.settings }

/-- What has been read of the arguments. -/
structure Progress where
  options : Options := {}
  /-- The sources, as soon as there are any. -/
  sources : Option (List String) := none
  /-- Whether more sources may follow. -/
  isOpen : Bool := true
  extras : List String := []
deriving DecidableEq, Repr

/-- The value that a text stands for: two dashes take back what was given before. -/
def given (text : String) : Option String := if text = "--" then none else some text

/-- Takes an option with its value. -/
def Options.set (o : Options) (flag : Flag) (text : String) : Except Stop Options :=
  let value := given text
  match flag with
  | .help => .error .help
  | .localization => .ok { o with localization := value.map Path.ofText }
  | .fallback => .ok { o with fallback := value.map Path.ofText }
  | .locale => .ok { o with locale := value }
  | .functionName => .ok { o with functionName := value }
  | .outDir => .ok { o with outDir := value.map Path.ofText }
  | .config => .ok { o with config := value.map Path.ofText }
  | .format =>
    match value with
    | none => .ok { o with style := none }
    | some name =>
      match Style.ofText? name with
      | some style => .ok { o with style := some style }
      | none => .error (.fault (.choice name))
  | .strict => .ok { o with strict := true }
  | .jobs =>
    match value with
    | none => .ok { o with jobs := none }
    | some number =>
      match readInteger number with
      | .ok jobs => .ok { o with jobs := some jobs }
      | .error _ => .error (.fault (.integer number))
  | .verbose => .ok { o with verbosity := o.verbosity + 1 }

namespace Progress

/-- Leaves an argument over. -/
def leave (p : Progress) (argument : String) : Progress :=
  { p with extras := p.extras ++ [argument] }

/-- Takes a plain argument. -/
def plain (p : Progress) (argument : String) : Progress :=
  if p.isOpen then { p with sources := some (p.sources.getD [] ++ [argument]) } else p.leave argument

/-- Takes two dashes, which mean nothing unless sources follow or come before. -/
def dashes (p : Progress) (isLast : Bool) : Progress :=
  if p.isOpen && !(p.sources.isNone && isLast) then p else p.leave "--"

/-- Ends the run of sources, if it has begun. -/
def closed (p : Progress) : Progress := { p with isOpen := p.isOpen && p.sources.isNone }

/-- Takes a request that has all its values. -/
def request (p : Progress) (r : Request) : Except Stop Progress := do
  let options ← r.settings.foldlM (fun o (flag, value) => o.set flag value) p.options
  return { p with options }

end Progress

/-- The request of a word. -/
def Word.request (flag : Flag) (short : Bool) : Option (List Char) → Except Stop Request
  | none => .ok (.of flag)
  | some attached => (requestOf flag short attached).mapError .fault

/-- Reads words one after the other. -/
def readWords (p : Progress) : List (String × Word) → Except Stop Progress
  | [] => .ok p
  | (argument, .plain) :: rest => readWords (p.plain argument) rest
  | (_, .dashes) :: rest => readWords (p.dashes rest.isEmpty) rest
  | (argument, .unknown) :: rest => readWords (p.closed.leave argument) rest
  | (_, .option flag short attached) :: rest => do
    let r ← Word.request flag short attached
    match r.wanting, rest with
    | none, rest => readWords (← p.closed.request r) rest
    | some wanting, (value, .plain) :: rest =>
      readWords (← p.closed.request { r with settings := r.settings ++ [(wanting, value)] }) rest
    | some wanting, _ => throw (.fault (.noValue wanting))

/-- The options that arguments ask for. -/
def Options.of (arguments : List String) : Except Stop Options := do
  let words ← (wordsOf arguments).mapError Stop.fault
  let p ← readWords {} words
  match p.sources with
  | none => throw (.fault .noSources)
  | some sources =>
    if p.extras.isEmpty then return { p.options with sources := sources.map Path.ofText }
    else throw (.fault (.unrecognized p.extras))

end Localize.CommandLine
