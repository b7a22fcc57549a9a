/-
  Localize folds calls of a localization function in source files into constant strings.
-/
import Localize.Main
import Localize.Proofs.Catalog.Answers
import Localize.Proofs.CommandLine.Directory
import Localize.Proofs.Compilation.Census
import Localize.Proofs.Compilation.Changed
import Localize.Proofs.Compilation.Foremost
import Localize.Proofs.Compilation.History
import Localize.Proofs.Compilation.Marked
import Localize.Proofs.Compilation.Merged
import Localize.Proofs.Compilation.Named
import Localize.Proofs.Compilation.Order
import Localize.Proofs.Compilation.Records
import Localize.Proofs.Compilation.Refused
import Localize.Proofs.Compilation.Restyled
import Localize.Proofs.Compilation.Schedule
import Localize.Proofs.Compilation.Unlimited
import Localize.Proofs.Diagnostic.Columns
import Localize.Proofs.Diagnostic.Object
import Localize.Proofs.Diagnostic.Operations
import Localize.Proofs.Fold.Constant
import Localize.Proofs.Fold.Escaped
import Localize.Proofs.Fold.Levels
import Localize.Proofs.Fold.Refusal
import Localize.Proofs.Fold.Replacement
import Localize.Proofs.Settings
import Localize.Proofs.Source.Confined
import Localize.Proofs.Source.Loaded
import Localize.Proofs.Source.Sealing
import Localize.Proofs.Source.Spelling
import Localize.Proofs.Source.Suffix
import Localize.Proofs.Source.Walk
