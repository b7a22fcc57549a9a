/-
  Diagnostics: a coded message with what is known about its place and how to mend it.
-/
import Localize.Position.Lines

namespace Localize

/-- How bad a diagnostic is. -/
inductive Severity where
  | warning
  | error
deriving DecidableEq, Repr

/-- The word for a severity. -/
def Severity.text : Severity → String
  | .warning => "warning"
  | .error => "error"

/-- The severity with a name. -/
def Severity.ofText? (name : String) : Option Severity := [.warning, .error].find? (·.text = name)

/-- What a diagnostic is about. -/
inductive Code where
  -- Missing localizations
  | missingLocalization
  | missingFallbackLocalization
  -- Modules that cannot be built
  | moduleParseFailed
  | nestingLimitExceeded
  -- Sources that cannot be loaded
  | sourceLoadFailed
  | sourceFormatUnsupported
  -- Configuration
  | invalidFunctionName
  | invalidSourceType
deriving DecidableEq, Repr

namespace Code

/-- All codes. -/
def all : List Code :=
  [missingLocalization, missingFallbackLocalization, moduleParseFailed, nestingLimitExceeded,
   sourceLoadFailed, sourceFormatUnsupported, invalidFunctionName, invalidSourceType]

/-- The name of a code in messages. -/
def text : Code → String
  | missingLocalization => "MISSING_LOCALIZATION"
  | missingFallbackLocalization => "MISSING_FALLBACK_LOCALIZATION"
  | moduleParseFailed => "MODULE_PARSE_FAILED"
  | nestingLimitExceeded => "NESTING_LIMIT_EXCEEDED"
  | sourceLoadFailed => "SOURCE_LOAD_FAILED"
  | sourceFormatUnsupported => "SOURCE_FORMAT_UNSUPPORTED"
  | invalidFunctionName => "INVALID_FUNCTION_NAME"
  | invalidSourceType => "INVALID_SOURCE_TYPE"

/-- The number of a code; the thousands tell what kind of failure it is. -/
def number : Code → Nat
  | missingLocalization => 1001
  | missingFallbackLocalization => 1002
  | moduleParseFailed => 2001
  | nestingLimitExceeded => 2002
  | sourceLoadFailed => 3001
  | sourceFormatUnsupported => 3002
  | invalidFunctionName => 4001
  | invalidSourceType => 4002

/-- The code with a name. -/
def ofText? (name : String) : Option Code := all.find? (·.text = name)

end Code

/-- A diagnostic. -/
structure Diagnostic where
  code : Code
  message : String
  severity : Severity := .error
  /-- The module or file that it is about. -/
  module : Option String := none
  location : Option Location := none
  /-- The key that is missing. -/
  key : Option String := none
  /-- What to do about it. -/
  hint : Option String := none
deriving DecidableEq, Repr

end Localize
