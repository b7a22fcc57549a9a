/-
  What settings of a project file come to. The table of the settings is read setting by setting, and the
  first one that is no text is a fault (`ofDocument_eq`). A file that can be read gives settings or a fault of
  the configuration, unless it is not in UTF-8, has a number or values inside of others beyond the limits
  for these, has something else where a table has to be, or has a wrong setting that cannot be shown
  (`read_settles`).
-/
import Localize.File.Listing
import Localize.Proofs.Toml.Reader
import Localize.Settings

namespace Localize

/-- Whether a fault is reported as one of the configuration: the text is no document, or a setting is not
what it has to be. -/
def SettingsFault.IsConfiguration : SettingsFault → Prop
  | toml _ _ (.at ..) => True
  | type .. => True
  | _ => False

instance : DecidablePred SettingsFault.IsConfiguration
  | .toml _ _ (.at ..) | .type .. => .isTrue trivial
  | .toml _ _ (.tooManyDigits _) | .toml _ _ .tooDeep | .file _ | .encoding _ | .noTable _ | .notShown
  | .shownTooDeep => .isFalse id

namespace Settings

/-! ## The table -/

/-- The settings that have to be texts, in the order in which they are read, with what they are told
to be. -/
def textSettings : List (String × String) :=
  [("function-name", "a string"), ("locale", "a string"), ("localization", "a string path"),
    ("fallback", "a string path"), ("out-dir", "a string path")]

/-- The text that a table has at a key. -/
def textAt? (table : List (String × Toml.Value)) (key : String) : Option String :=
  match valueAt? key table with
  | some (.text s) => some s
  | _ => none

/-- The first of several settings that a table has and that is no text. -/
def wrong? (table : List (String × Toml.Value)) :
    List (String × String) → Option (String × String × Toml.Value)
  | [] => none
  | (key, expected) :: rest =>
    match valueAt? key table with
    | none => wrong? table rest
    | some (.text _) => wrong? table rest
    | some v => some (key, expected, v)

/-- The settings of a table in which all of them are texts. -/
def ofTexts (directory : Path) (table : List (String × Toml.Value)) : Settings :=
  let path? (key : String) := (textAt? table key).map fun s => directory.append (.ofText s)
  { localization := path? "localization"
    fallback := path? "fallback"
    functionName := (textAt? table "function-name").getD defaultFunctionName
    outDir := path? "out-dir"
    locale := textAt? table "locale" }

/-- The table of the settings in a document. -/
def tableOf (document : List (String × Toml.Value)) :
    Except SettingsFault (List (String × Toml.Value)) := do
  subtable (← subtable document "tool") tableName

section Table

variable {table document : List (String × Toml.Value)} {directory : Path}

/-- The settings of a table in which the others are texts, or the fault of the first that is none. -/
def outcomeOf (table : List (String × Toml.Value)) (keys : List (String × String)) (good : Settings) :
    Except SettingsFault Settings :=
  match wrong? table keys with
  | some (key, expected, v) => .error (mistyped key expected v)
  | none => .ok good

/-- A setting that is read gives its text to what follows, unless it is there and is none. -/
theorem text?_bind {key expected : String} {rest : List (String × String)} {good : Settings}
    {k : Option String → Except SettingsFault Settings}
    (h : k (textAt? table key) = outcomeOf table rest good) :
    (text? table key expected >>= k) = outcomeOf table ((key, expected) :: rest) good := by
  unfold text? outcomeOf wrong?
  unfold textAt? outcomeOf at h
  rcases hvalue : valueAt? key table with _ | v
  · rw [hvalue] at h
    exact h
  · rw [hvalue] at h
    cases v with
    | text s => exact h
    | _ => rfl

theorem subtable_eq_error_iff {key : String} {f : SettingsFault} :
    subtable table key = .error f ↔
      ∃ v, valueAt? key table = some v ∧ (∀ entries, v ≠ .table entries) ∧ f = .noTable v.typeName := by
  unfold subtable
  rcases valueAt? key table with _ | v
  · exact ⟨nofun, fun ⟨_, hv, _⟩ => nomatch hv⟩
  · constructor
    · intro h
      refine ⟨v, rfl, ?_, ?_⟩
      · rintro entries rfl
        cases h
      · cases v with
        | table entries => cases h
        | _ => exact (Except.error.inj h).symm
    · rintro ⟨v', hv, hnot, rfl⟩
      cases hv
      cases v with
      | table entries => exact absurd rfl (hnot entries)
      | _ => rfl

/-- The settings of a document: those of its table, where all are texts, or the fault of the first that
is none. -/
theorem ofDocument_eq (h : tableOf document = .ok table) :
    ofDocument directory document = outcomeOf table textSettings (ofTexts directory table) := by
  unfold tableOf at h
  unfold ofDocument
  rcases htool : subtable document "tool" with f | tool
  · rw [htool] at h
    cases h
  · rw [htool] at h
    change subtable tool tableName = .ok table at h
    change (subtable tool tableName >>= _) = _
    rw [h]
    refine text?_bind (text?_bind ?_)
    simp only [bind_assoc, pure_bind]
    exact text?_bind (text?_bind (text?_bind rfl))

theorem ofDocument_of_error {f : SettingsFault} (h : tableOf document = .error f) :
    ofDocument directory document = .error f := by
  unfold tableOf at h
  unfold ofDocument
  rcases htool : subtable document "tool" with f' | tool
  · rw [htool] at h
    cases h
    rfl
  · rw [htool] at h
    change subtable tool tableName = .error f at h
    dsimp only [bind, Except.bind]
    rw [h]

end Table

/-! ## The file -/

/-- A content that ends in a fault other than one of the configuration: it is not in UTF-8, it has a number
of too many digits or values too deep inside of others, something else stands where a table has to be, or the
first wrong setting cannot be shown. -/
inductive Escapes (bytes : Text.Bytes) : Prop where
  | encoding {f : Text.DecodeFault} (h : Text.decodeUtf8 bytes = .error f)
  | digits {text : List Char} {n : Nat} (h : Text.decodeUtf8 bytes = .ok text)
      (hread : Toml.read text = .error (.tooManyDigits n))
  | depth {text : List Char} (h : Text.decodeUtf8 bytes = .ok text)
      (hread : Toml.read text = .error .tooDeep)
  | table {text : List Char} {document : List (String × Toml.Value)} {f : SettingsFault}
      (h : Text.decodeUtf8 bytes = .ok text) (hread : Toml.read text = .ok document)
      (htable : tableOf document = .error f)
  | shown {text : List Char} {document table : List (String × Toml.Value)} {key expected : String}
      {v : Toml.Value} {u : Toml.Value.Unshown} (h : Text.decodeUtf8 bytes = .ok text)
      (hread : Toml.read text = .ok document) (htable : tableOf document = .ok table)
      (hwrong : wrong? table textSettings = some (key, expected, v))
      (hshown : v.unshown? Toml.Value.shownRoom = some u)

/-- What a content in the file of a path gives: the settings of its table if these are texts, or the fault that
comes first. -/
inductive Outcome (path : Path) (bytes : Text.Bytes) : Except SettingsFault Settings → Prop where
  | encoding {f : Text.DecodeFault} (h : Text.decodeUtf8 bytes = .error f) :
      Outcome path bytes (.error (.encoding f))
  | fault {text : List Char} {f : Toml.Fault} (h : Text.decodeUtf8 bytes = .ok text)
      (hread : Toml.read text = .error f) : Outcome path bytes (.error (.toml path.text text f))
  | tool {text : List Char} {document : List (String × Toml.Value)} {v : Toml.Value}
      (h : Text.decodeUtf8 bytes = .ok text) (hread : Toml.read text = .ok document)
      (hv : valueAt? "tool" document = some v) (hnot : ∀ entries, v ≠ .table entries) :
      Outcome path bytes (.error (.noTable v.typeName))
  | table {text : List Char} {document tool : List (String × Toml.Value)} {v : Toml.Value}
      (h : Text.decodeUtf8 bytes = .ok text) (hread : Toml.read text = .ok document)
      (htool : subtable document "tool" = .ok tool) (hv : valueAt? tableName tool = some v)
      (hnot : ∀ entries, v ≠ .table entries) : Outcome path bytes (.error (.noTable v.typeName))
  | wrong {text : List Char} {document table : List (String × Toml.Value)} {key expected : String}
      {v : Toml.Value} (h : Text.decodeUtf8 bytes = .ok text) (hread : Toml.read text = .ok document)
      (htable : tableOf document = .ok table)
      (hwrong : wrong? table textSettings = some (key, expected, v)) :
      Outcome path bytes (.error (mistyped key expected v))
  | settings {text : List Char} {document table : List (String × Toml.Value)}
      (h : Text.decodeUtf8 bytes = .ok text) (hread : Toml.read text = .ok document)
      (htable : tableOf document = .ok table) (hwrong : wrong? table textSettings = none) :
      Outcome path bytes (.ok (ofTexts path.parent table))

/-- What a content gives: settings, or a fault of the configuration. -/
def Settled (r : Except SettingsFault Settings) : Prop :=
  (∃ s, r = .ok s) ∨ ∃ f, r = .error f ∧ f.IsConfiguration

theorem settled_of_error {f : SettingsFault} :
    Settled (.error f) ↔ f.IsConfiguration := by
  constructor
  · rintro (⟨s, hs⟩ | ⟨f', hf, h⟩)
    · cases hs
    · cases hf
      exact h
  · exact fun h => .inr ⟨f, rfl, h⟩

instance : DecidablePred Settled
  | .ok s => .isTrue (.inl ⟨s, rfl⟩)
  | .error _ => decidable_of_iff _ settled_of_error.symm

section File

variable {path : Path} {bytes : Text.Bytes} {text : List Char}
  {document table : List (String × Toml.Value)}

theorem ofBytes_of_encoding {f : Text.DecodeFault} (h : Text.decodeUtf8 bytes = .error f) :
    ofBytes path bytes = .error (.encoding f) := by
  unfold ofBytes
  rw [h]
  rfl

theorem ofBytes_of_fault {f : Toml.Fault} (h : Text.decodeUtf8 bytes = .ok text)
    (hread : Toml.read text = .error f) : ofBytes path bytes = .error (.toml path.text text f) := by
  unfold ofBytes
  rw [h]
  dsimp only [Except.mapError, bind, Except.bind]
  rw [hread]

theorem ofBytes_of_document (h : Text.decodeUtf8 bytes = .ok text)
    (hread : Toml.read text = .ok document) :
    ofBytes path bytes = ofDocument path.parent document := by
  unfold ofBytes
  rw [h]
  dsimp only [Except.mapError, bind, Except.bind]
  rw [hread]

theorem mistyped_isConfiguration_iff {key expected : String} {v : Toml.Value} :
    (mistyped key expected v).IsConfiguration ↔ v.unshown? Toml.Value.shownRoom = none := by
  unfold mistyped
  rcases v.unshown? Toml.Value.shownRoom with _ | (_ | _)
  · exact ⟨fun _ => rfl, fun _ => trivial⟩
  · exact ⟨False.elim, nofun⟩
  · exact ⟨False.elim, nofun⟩

theorem tableOf_eq_error_iff {f : SettingsFault} :
    tableOf document = .error f ↔ subtable document "tool" = .error f ∨
      ∃ tool, subtable document "tool" = .ok tool ∧ subtable tool tableName = .error f := by
  unfold tableOf
  rcases subtable document "tool" with f' | tool
  · constructor
    · rintro h
      exact .inl h
    · rintro (h | ⟨tool, htool, -⟩)
      · exact h
      · cases htool
  · constructor
    · exact fun h => .inr ⟨tool, rfl, h⟩
    · rintro (h | ⟨tool', htool, h⟩)
      · cases h
      · cases htool
        exact h

theorem not_isConfiguration_of_tableOf {f : SettingsFault} (h : tableOf document = .error f) :
    ¬f.IsConfiguration := by
  rcases tableOf_eq_error_iff.mp h with htool | ⟨tool, -, htable⟩
  · obtain ⟨v, -, -, rfl⟩ := subtable_eq_error_iff.mp htool
    exact id
  · obtain ⟨v, -, -, rfl⟩ := subtable_eq_error_iff.mp htable
    exact id

/-- Each content has its outcome. -/
theorem outcome_ofBytes (path : Path) (bytes : Text.Bytes) : Outcome path bytes (ofBytes path bytes) := by
  rcases h : Text.decodeUtf8 bytes with f | text
  · rw [ofBytes_of_encoding h]
    exact .encoding h
  · rcases hread : Toml.read text with f | document
    · rw [ofBytes_of_fault h hread]
      exact .fault h hread
    · rw [ofBytes_of_document h hread]
      rcases htable : tableOf document with f | table
      · rw [ofDocument_of_error htable]
        rcases tableOf_eq_error_iff.mp htable with htool | ⟨tool, htool, hinner⟩
        · obtain ⟨v, hv, hnot, rfl⟩ := subtable_eq_error_iff.mp htool
          exact .tool h hread hv hnot
        · obtain ⟨v, hv, hnot, rfl⟩ := subtable_eq_error_iff.mp hinner
          exact .table h hread htool hv hnot
      · rw [ofDocument_eq htable, outcomeOf]
        rcases hwrong : wrong? table textSettings with _ | ⟨key, expected, v⟩
        · exact .settings h hread htable hwrong
        · exact .wrong h hread htable hwrong

theorem settled_of_document (h : Text.decodeUtf8 bytes = .ok text) (hread : Toml.read text = .ok document)
    (hnot : ¬Escapes bytes) : Settled (ofDocument path.parent document) := by
  rcases htable : tableOf document with f | table
  · exact absurd (.table h hread htable) hnot
  · rw [ofDocument_eq htable, outcomeOf]
    rcases hwrong : wrong? table textSettings with _ | ⟨key, expected, v⟩
    · exact .inl ⟨_, rfl⟩
    · refine settled_of_error.mpr (mistyped_isConfiguration_iff.mpr ?_)
      rcases hshown : v.unshown? Toml.Value.shownRoom with _ | u
      · rfl
      · exact absurd (.shown h hread htable hwrong hshown) hnot

/-- A content gives settings or a fault of the configuration just if it does not escape. -/
theorem settled_ofBytes_iff (path : Path) (bytes : Text.Bytes) :
    Settled (ofBytes path bytes) ↔ ¬Escapes bytes := by
  constructor
  · intro hsettled hescapes
    cases hescapes with
    | encoding h =>
      rw [ofBytes_of_encoding h] at hsettled
      exact settled_of_error.mp hsettled
    | digits h hread =>
      rw [ofBytes_of_fault h hread] at hsettled
      exact settled_of_error.mp hsettled
    | depth h hread =>
      rw [ofBytes_of_fault h hread] at hsettled
      exact settled_of_error.mp hsettled
    | table h hread htable =>
      rw [ofBytes_of_document h hread, ofDocument_of_error htable] at hsettled
      exact not_isConfiguration_of_tableOf htable (settled_of_error.mp hsettled)
    | shown h hread htable hwrong hshown =>
      rw [ofBytes_of_document h hread, ofDocument_eq htable, outcomeOf, hwrong] at hsettled
      have hnone := mistyped_isConfiguration_iff.mp (settled_of_error.mp hsettled)
      cases hshown.symm.trans hnone
  · intro hnot
    rcases h : Text.decodeUtf8 bytes with f | text
    · exact absurd (.encoding h) hnot
    · rcases hread : Toml.read text with f | document
      · rw [ofBytes_of_fault h hread, settled_of_error]
        cases f with
        | «at» => trivial
        | tooManyDigits n => exact absurd (.digits h hread) hnot
        | tooDeep => exact absurd (.depth h hread) hnot
      · rw [ofBytes_of_document h hread]
        exact settled_of_document h hread hnot

end File

/-- A project file that can be read gives the settings of its table, or the fault that comes first; and it
gives settings or a fault of the configuration just if its content does not escape. A text of few digits and
few brackets does not escape while it is read. -/
theorem read_settles {tree : Tree} {path : Path} {bytes : Text.Bytes}
    (h : tree.read path = .ok bytes) :
    Outcome path bytes (Settings.read tree path) ∧
    (Settled (Settings.read tree path) ↔ ¬Escapes bytes) ∧
    ∀ text f, Text.decodeUtf8 bytes = .ok text → Toml.read text = .error f →
      Toml.digits text ≤ digitLimit → Toml.openings text * Toml.inlineRoom ≤ Toml.nestingRoom →
      ∃ cause position, f = .at cause position := by
  have hread : Settings.read tree path = ofBytes path bytes := by
    unfold Settings.read
    rw [h]
    rfl
  rw [hread]
  refine ⟨outcome_ofBytes path bytes, settled_ofBytes_iff path bytes, ?_⟩
  intro text f _ hfault hdigits hopenings
  have hwithin := Toml.within_of_read hfault
  cases f with
  | «at» cause position => exact ⟨cause, position, rfl⟩
  | tooManyDigits n => exact absurd (Nat.lt_of_lt_of_le hwithin.1 hwithin.2) (Nat.not_lt.mpr hdigits)
  | tooDeep =>
    rw [Nat.mul_comm] at hopenings
    exact absurd hwithin (Nat.not_lt.mpr hopenings)

/-- A listed tree with a project file. -/
def projectTree (text : String) : Tree := .ofListing ["work"] [("pyproject.toml", .text text)]

/-- A setting that is no text is a fault of the configuration. -/
theorem read_settles_wrong :
    let text := "[tool.i18nfold]\nlocale = 1\n"
    (projectTree text).read (.ofText "pyproject.toml") = .ok (Text.encodeUtf8 text.toList) ∧
      ¬Escapes (Text.encodeUtf8 text.toList) := by
  intro text
  have hread : (projectTree text).read (.ofText "pyproject.toml") = .ok (Text.encodeUtf8 text.toList) := by
    decide +kernel
  have hsettled : Settled (Settings.read (projectTree text) (.ofText "pyproject.toml")) := by
    decide +kernel
  exact ⟨hread, (read_settles hread).2.1.mp hsettled⟩

/-- A value that is no table where a table has to be is not a fault of the configuration. -/
theorem read_tool :
    let text := "tool = 3\n"
    (projectTree text).read (.ofText "pyproject.toml") = .ok (Text.encodeUtf8 text.toList) ∧
      (Settings.read (projectTree text) (.ofText "pyproject.toml")).mapError SettingsFault.message =
        .error "'int' object has no attribute 'get'" ∧
      ¬Settled (Settings.read (projectTree text) (.ofText "pyproject.toml")) := by
  refine ⟨?_, ?_, ?_⟩
  · decide +kernel
  · decide +kernel
  · decide +kernel

end Settings

end Localize
