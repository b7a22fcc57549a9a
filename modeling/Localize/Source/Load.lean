/-
  Sources in files. The suffix of a path, in any case, tells how the file is read: as a map of
  localizations in JSON, or as a message catalog. What a catalog holds is up to the readers of catalogs,
  of which the ones at hand are those of this library. A file that cannot be used is reported by a
  diagnostic with its path.
-/
import Localize.Catalog.Compiled
import Localize.Catalog.Portable
import Localize.Diagnostic.Format
import Localize.Event
import Localize.File.Tree
import Localize.Json.Reader
import Localize.Text.Case
import Localize.Text.Split

namespace Localize

open Localize.Text

/-- Why a file makes no source. -/
inductive LoadReason where
  | file (f : FileFault)
  | encoding (f : DecodeFault)
  | json (text : String) (f : Json.Fault)
  /-- The value of a file is no map. -/
  | noMap (typeName : String)
  | catalog (f : Catalog.CatalogFault)
  | suffix (suffix : String)

/-- Why loading a source fails. -/
inductive LoadFault where
  | source (path : Path) (reason : LoadReason)
  /-- Catalogs of a kind cannot be read here. -/
  | noCatalogs (kind : String)
  /-- The path of a map has a null character. -/
  | nullCharacter
  /-- A number in a file has more digits than numbers may have. -/
  | integer (f : IntegerFault)

namespace LoadReason

/-- The wording of a reason for a path. -/
def message (path : String) : LoadReason → String
  | file .nullCharacter => s!"Invalid catalog {path}: " ++ FileFault.nullCharacter.message
  | file f => s!"Cannot read {path}: " ++ f.message
  | encoding f => s!"Invalid JSON in {path}: " ++ f.message
  | json text f => s!"Invalid JSON in {path}: " ++ f.message text
  | noMap typeName => s!"Top level of {path} must be an object, got {typeName}"
  | catalog .badMagic =>
    s!"Cannot read {path}: " ++ numberedFailure 0 Catalog.CatalogFault.badMagic.message path
  | catalog .corrupt =>
    s!"Cannot read {path}: " ++ numberedFailure 0 Catalog.CatalogFault.corrupt.message path
  | catalog f => s!"Invalid catalog {path}: " ++ f.message
  | suffix s =>
    s!"Unsupported localization file type '{s}' for {path} (expected .json, .po or .mo)"

/-- The code of a reason. -/
def code : LoadReason → Code
  | suffix _ => .sourceFormatUnsupported
  | _ => .sourceLoadFailed

/-- The diagnostic of a reason for a path. -/
def diagnostic (path : Path) (reason : LoadReason) : Diagnostic where
  code := reason.code
  message := reason.message path.text
  module := some path.text

end LoadReason

namespace LoadFault

/-- The wording for a kind of catalogs that cannot be read. -/
def noCatalogsText (feature : String) : String :=
  s!"{feature} requires Babel for gettext catalogs. Install with: pip install i18nfold[babel]"

/-- The wording of a fault. -/
def message : LoadFault → String
  | source path reason => (reason.diagnostic path).text
  | noCatalogs kind => noCatalogsText (kind ++ " catalog loading")
  | nullCharacter => FileFault.nullCharacter.message
  | integer f => f.message

end LoadFault

/-! ## Readers of catalogs -/

/-- Readers of the two kinds of catalogs: each gives the messages of a content, or why it refuses it. -/
structure Catalog.Readers where
  portable : Bytes → Except CatalogFault (List Message)
  compiled : Bytes → Except CatalogFault (List Message)

/-- The readers of this library. -/
def Catalog.Readers.atHand : Readers := ⟨readPortable, readCompiled⟩

/-! ## Loading -/

namespace Source

/-- A loaded source and what is reported of it. -/
structure Loaded where
  source : Source
  event : Event

/-- The entries of the map of localizations in a file with a content. -/
def mapEntries (path : Path) (bytes : Bytes) : Except LoadFault (List (String × Value)) := do
  let cs ← (decodeUtf8 bytes).mapError fun f => .source path (.encoding f)
  let text := String.ofList (unifyLineEnds cs)
  match Json.read text with
  | .ok (.map entries) => return entries
  | .ok v => throw (.source path (.noMap v.typeName))
  | .error (.tooManyDigits count) => throw (.integer (.tooManyDigits count))
  | .error f => throw (.source path (.json text f))

/-- The fault of a map that cannot be read. -/
def unreadable (path : Path) : FileFault → LoadFault
  | .nullCharacter => .nullCharacter
  | f => .source path (.file f)

/-- Loads a map of localizations. -/
def loadMap (tree : Tree) (path : Path) : Except LoadFault Loaded := do
  let bytes ← (tree.read path).mapError (unreadable path)
  let entries ← mapEntries path bytes
  return ⟨.ofMap path.text entries, .loadedMap path.text entries.length⟩

/-- Whether a catalog is read as a compiled one. -/
def isCompiled (path : Path) : Bool := path.suffix = ".mo"

/-- The messages of a catalog with a content. -/
def messages (readers : Catalog.Readers) (path : Path) (bytes : Bytes) :
    Except Catalog.CatalogFault (List Catalog.Message) :=
  if isCompiled path then readers.compiled bytes else readers.portable bytes

/-- Loads a message catalog, where catalogs can be read at all. -/
def loadCatalog (catalogs : Bool) (tree : Tree) (path : Path) (readers : Catalog.Readers := .atHand) :
    Except LoadFault Loaded := do
  if !catalogs then throw (.noCatalogs (if isCompiled path then "MO" else "PO"))
  let bytes ← (tree.read path).mapError fun f => .source path (.file f)
  let messages ← (messages readers path bytes).mapError fun f => .source path (.catalog f)
  return ⟨Catalog.source path.text messages,
    .loadedCatalog path.text (Catalog.texts messages).length⟩

/-- Loads a source as its suffix tells. -/
def load (catalogs : Bool) (tree : Tree) (path : Path) (readers : Catalog.Readers := .atHand) :
    Except LoadFault Loaded :=
  match lowerCase path.suffix with
  | ".json" => loadMap tree path
  | ".po" => loadCatalog catalogs tree path readers
  | ".mo" => loadCatalog catalogs tree path readers
  | _ => .error (.source path (.suffix path.suffix))

end Source

end Localize
