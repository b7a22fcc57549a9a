/-
  Settings in a project file: the table `tool.i18nfold` of a TOML document. Paths in it start at the
  directory of the file. What the table does not set has its default.
-/
import Localize.Config
import Localize.File.Tree
import Localize.Toml.Reader

namespace Localize

/-- What a project file can set. -/
structure Settings where
  localization : Option Path := none
  fallback : Option Path := none
  functionName : String := defaultFunctionName
  /-- The directory that built modules are written to. -/
  outDir : Option Path := none
  /-- The locale that stands for the placeholder in the paths of sources. -/
  locale : Option String := none
deriving DecidableEq, Repr

/-- Why settings are not read. -/
inductive SettingsFault where
  | file (f : FileFault)
  | encoding (f : Text.DecodeFault)
  | toml (path : String) (text : List Char) (f : Toml.Fault)
  /-- What should be a table is a value of another type. -/
  | noTable (typeName : String)
  /-- A setting is not what it has to be. -/
  | type (name expected shown : String)
  /-- So it is, and has an integer of more digits than can be shown. -/
  | notShown
  /-- So it is, and has values too deep inside of others to be shown. -/
  | shownTooDeep

namespace Settings

/-- The name of the table inside `tool`. -/
def tableName : String := "i18nfold"

end Settings

/-- The wording of a fault. -/
def SettingsFault.message : SettingsFault → String
  | file f => f.message
  | encoding f => f.message
  | toml path text f =>
    match f with
    | .at .. => s!"Invalid TOML in {path}: " ++ f.message text
    | .tooManyDigits _ | .tooDeep => f.message text
  | noTable typeName => s!"'{typeName}' object has no attribute 'get'"
  | notShown => noTextMessage
  | shownTooDeep => "maximum recursion depth exceeded while getting the repr of an object"
  | type name expected shown => s!"[tool.{Settings.tableName}] {name} must be {expected}, got {shown}"

/-- Whether a fault breaks a run off that it keeps from being prepared. -/
def SettingsFault.breaksOff : SettingsFault → Bool
  | noTable _ | toml _ _ .tooDeep | shownTooDeep => true
  | _ => false

namespace Settings

/-- The table at a key of a value, which is empty where the key is missing. -/
def subtable (entries : List (String × Toml.Value)) (key : String) :
    Except SettingsFault (List (String × Toml.Value)) :=
  match valueAt? key entries with
  | none => .ok []
  | some (.table entries) => .ok entries
  | some v => .error (.noTable v.typeName)

/-- The fault of a setting that is not what it has to be. -/
def mistyped (key expected : String) (v : Toml.Value) : SettingsFault :=
  match v.unshown? Toml.Value.shownRoom with
  | none => .type key expected v.shown
  | some .digits => .notShown
  | some .depth => .shownTooDeep

/-- The text at a key, if there is one. -/
def text? (entries : List (String × Toml.Value)) (key expected : String) :
    Except SettingsFault (Option String) :=
  match valueAt? key entries with
  | none => .ok none
  | some (.text s) => .ok (some s)
  | some v => .error (mistyped key expected v)

/-- The settings of a document in a directory. -/
def ofDocument (directory : Path) (document : List (String × Toml.Value)) :
    Except SettingsFault Settings := do
  let table ← subtable (← subtable document "tool") tableName
  let functionName ← text? table "function-name" "a string"
  let locale ← text? table "locale" "a string"
  let path? (key : String) : Except SettingsFault (Option Path) := do
    return (← text? table key "a string path").map fun s => directory.append (.ofText s)
  return {
    localization := ← path? "localization"
    fallback := ← path? "fallback"
    functionName := functionName.getD defaultFunctionName
    outDir := ← path? "out-dir"
    locale := locale }

/-- The settings of a project file with a content. -/
def ofBytes (path : Path) (bytes : Text.Bytes) : Except SettingsFault Settings := do
  let text ← (Text.decodeUtf8 bytes).mapError .encoding
  let document ← (Toml.read text).mapError (.toml path.text text)
  ofDocument path.parent document

/-- Reads the settings of a project file. -/
def read (tree : Tree) (path : Path) : Except SettingsFault Settings := do
  ofBytes path (← (tree.read path).mapError .file)

end Settings

end Localize
