/-
  Maps of localizations from files. The bytes of a file make a source just if they encode a JSON text of a
  map whose integers can be read, and then the source answers like that map itself (`Mirrors`). A text that
  is read up to an integer of too many digits breaks the loader off, though it can be a JSON text of a map
  like any other (`loadMap_nines`), and all other bytes are refused with the path (`loadMap_settles`).
-/
import Localize.Proofs.Json.LineEnds
import Localize.Proofs.Source.Suffix
import Localize.Proofs.Source.Walk

namespace Localize.Source

open Text (Bytes decodeUtf8 encodeUtf8 unifyLineEnds)

/-! ## Contents -/

section Content

variable {path : Path} {bytes : Bytes}

/-- What the text of a content gives: the entries of a map, or why there are none. -/
def entriesOf (path : Path) (text : String) : Except Json.Fault Value → Except LoadFault (List (String × Value))
  | .ok (.map entries) => .ok entries
  | .ok v => .error (.source path (.noMap v.typeName))
  | .error (.tooManyDigits count) => .error (.integer (.tooManyDigits count))
  | .error f => .error (.source path (.json text f))

theorem mapEntries_encodeUtf8 (path : Path) (cs : List Char) :
    mapEntries path (encodeUtf8 cs) =
      entriesOf path (String.ofList (unifyLineEnds cs)) (Json.read (String.ofList (unifyLineEnds cs))) := by
  unfold mapEntries
  rw [Text.decodeUtf8_encodeUtf8]
  dsimp only [Except.mapError, bind, Except.bind]
  unfold entriesOf
  rcases Json.read (String.ofList (unifyLineEnds cs)) with f | v
  · cases f <;> rfl
  · cases v <;> rfl

/-- A content is text, or it is refused for its encoding. -/
theorem mapEntries_cases (path : Path) (bytes : Bytes) :
    (∃ cs, bytes = encodeUtf8 cs) ∨
      (∀ cs, bytes ≠ encodeUtf8 cs) ∧ ∃ f, mapEntries path bytes = .error (.source path (.encoding f)) := by
  rcases h : decodeUtf8 bytes with f | cs
  · refine .inr ⟨?_, f, ?_⟩
    · rintro cs rfl
      rw [Text.decodeUtf8_encodeUtf8] at h
      cases h
    · unfold mapEntries
      rw [h]
      rfl
  · exact .inl ⟨cs, Text.decodeUtf8_eq_ok_iff.mp h⟩

theorem encodeUtf8_injective {cs ds : List Char} (h : encodeUtf8 cs = encodeUtf8 ds) : cs = ds := by
  have hread := Text.decodeUtf8_encodeUtf8 cs
  rw [h, Text.decodeUtf8_encodeUtf8] at hread
  exact (Except.ok.inj hread).symm

theorem entriesOf_eq_ok_iff {text : String} {r : Except Json.Fault Value} {entries : List (String × Value)} :
    entriesOf path text r = .ok entries ↔ r = .ok (.map entries) := by
  constructor
  · intro h
    unfold entriesOf at h
    split at h <;> cases h
    rfl
  · rintro rfl
    rfl

theorem entriesOf_eq_integer_iff {text : String} {r : Except Json.Fault Value} {count : Nat} :
    entriesOf path text r = .error (.integer (.tooManyDigits count)) ↔ r = .error (.tooManyDigits count) := by
  constructor
  · intro h
    unfold entriesOf at h
    split at h <;> cases h
    rfl
  · rintro rfl
    rfl

theorem entriesOf_fault {text : String} {r : Except Json.Fault Value} {f : LoadFault}
    (h : entriesOf path text r = .error f) :
    (∃ count, f = .integer (.tooManyDigits count)) ∨
      ∃ reason, f = .source path reason ∧ reason.code = .sourceLoadFailed := by
  unfold entriesOf at h
  split at h <;> cases h
  · exact .inr ⟨_, rfl, rfl⟩
  · exact .inl ⟨_, rfl⟩
  · exact .inr ⟨_, rfl, rfl⟩

theorem mapEntries_eq_ok_iff {entries : List (String × Value)} :
    mapEntries path bytes = .ok entries ↔
      ∃ cs, bytes = encodeUtf8 cs ∧ Json.IsText digitLimit cs (.map entries) := by
  rcases mapEntries_cases path bytes with ⟨cs, rfl⟩ | ⟨hnone, f, hf⟩
  · rw [mapEntries_encodeUtf8, entriesOf_eq_ok_iff, Json.read_eq_ok_iff, String.toList_ofList,
      Json.isText_unifyLineEnds_iff]
    constructor
    · exact fun h => ⟨cs, rfl, h⟩
    · rintro ⟨ds, hds, h⟩
      rwa [encodeUtf8_injective hds]
  · rw [hf]
    exact ⟨nofun, fun ⟨cs, hcs, _⟩ => absurd hcs (hnone cs)⟩

theorem mapEntries_eq_integer_iff {count : Nat} :
    mapEntries path bytes = .error (.integer (.tooManyDigits count)) ↔
      ∃ cs, bytes = encodeUtf8 cs ∧ Json.IsOverlong count cs := by
  rcases mapEntries_cases path bytes with ⟨cs, rfl⟩ | ⟨hnone, f, hf⟩
  · rw [mapEntries_encodeUtf8, entriesOf_eq_integer_iff, Json.read_eq_tooManyDigits_iff,
      String.toList_ofList, Json.isOverlong_unifyLineEnds_iff]
    constructor
    · exact fun h => ⟨cs, rfl, h⟩
    · rintro ⟨ds, hds, h⟩
      rwa [encodeUtf8_injective hds]
  · rw [hf]
    exact ⟨nofun, fun ⟨cs, hcs, _⟩ => absurd hcs (hnone cs)⟩

theorem mapEntries_fault {f : LoadFault} (h : mapEntries path bytes = .error f) :
    (∃ count, f = .integer (.tooManyDigits count)) ∨
      ∃ reason, f = .source path reason ∧ reason.code = .sourceLoadFailed := by
  rcases mapEntries_cases path bytes with ⟨cs, rfl⟩ | ⟨-, fault, hfault⟩
  · rw [mapEntries_encodeUtf8] at h
    exact entriesOf_fault h
  · cases hfault.symm.trans h
    exact .inr ⟨_, rfl, rfl⟩

end Content

/-! ## Sources -/

/-- A source answers as maps do: with the sealed form of where the walk along a key leads in them, if that is
a value and not null, and else with nothing. It fails just where the walk comes to a list with a numeral of
too many digits. -/
structure Mirrors (source : Source) (entries : List (String × Value)) : Prop where
  reached : ∀ {key r?}, source.resolve key = .ok r? → ∀ v,
    (Value.map entries).Leads (Key.segments key) v → r? = defined v.sealed
  missed : ∀ {key r?}, source.resolve key = .ok r? →
    (∀ v, ¬ (Value.map entries).Leads (Key.segments key) v) → r? = none
  fails : ∀ {key f}, source.resolve key = .error f ↔
    ∃ count, (Value.map entries).Overlong (Key.segments key) count ∧ f = .tooManyDigits count

theorem mirrors_ofMap (name : String) (entries : List (String × Value)) :
    (ofMap name entries).Mirrors entries where
  reached h := (answer_of_resolve h).1
  missed h := (answer_of_resolve h).2
  fails := resolve_ofMap_eq_error_iff

section Load

variable {tree : Tree} {path : Path} {bytes : Bytes}

theorem loadMap_eq_ok_iff (h : tree.read path = .ok bytes) {loaded : Loaded} :
    loadMap tree path = .ok loaded ↔ ∃ entries, mapEntries path bytes = .ok entries ∧
      loaded = ⟨.ofMap path.text entries, .loadedMap path.text entries.length⟩ := by
  rw [loadMap_of_read h]
  rcases mapEntries path bytes with f | entries
  · exact ⟨nofun, nofun⟩
  · constructor
    · rintro ⟨⟩
      exact ⟨entries, rfl, rfl⟩
    · rintro ⟨_, ⟨⟩, rfl⟩
      rfl

theorem loadMap_eq_error_iff (h : tree.read path = .ok bytes) {f : LoadFault} :
    loadMap tree path = .error f ↔ mapEntries path bytes = .error f := by
  rw [loadMap_of_read h]
  rcases mapEntries path bytes with g | entries
  · constructor <;> (rintro ⟨⟩; rfl)
  · exact ⟨nofun, nofun⟩

/-- Every content of a file is settled. It makes a source just if it encodes a JSON text of a map whose
integers can be read, and the source answers as that map. It breaks the loader off just if it encodes a text
that is read up to an integer of too many digits. Every other content is refused with the path and the code
for loading. A JSON text of a map whose integers may be of any length is loaded or breaks the loader off. -/
theorem loadMap_settles (h : tree.read path = .ok bytes) :
    (∀ loaded, loadMap tree path = .ok loaded ↔ ∃ cs entries,
      bytes = encodeUtf8 cs ∧ Json.IsText digitLimit cs (.map entries) ∧
        loaded = ⟨.ofMap path.text entries, .loadedMap path.text entries.length⟩ ∧
        loaded.source.Mirrors entries) ∧
    (∀ count, loadMap tree path = .error (.integer (.tooManyDigits count)) ↔
      ∃ cs, bytes = encodeUtf8 cs ∧ Json.IsOverlong count cs) ∧
    (∀ f, loadMap tree path = .error f → (∃ count, f = .integer (.tooManyDigits count)) ∨
      ∃ reason, f = .source path reason ∧ (reason.diagnostic path).code = .sourceLoadFailed ∧
        (reason.diagnostic path).module = some path.text) ∧
    ∀ limit cs entries, bytes = encodeUtf8 cs → Json.IsText limit cs (.map entries) →
      (∃ loaded, loadMap tree path = .ok loaded ∧ loaded.source.Mirrors entries) ∨
        ∃ count, loadMap tree path = .error (.integer (.tooManyDigits count)) := by
  refine ⟨fun loaded => ?_, fun count => ?_, fun f hf => ?_, fun limit cs entries hbytes htext => ?_⟩
  · rw [loadMap_eq_ok_iff h]
    constructor
    · rintro ⟨entries, hentries, rfl⟩
      obtain ⟨cs, hcs, htext⟩ := mapEntries_eq_ok_iff.mp hentries
      exact ⟨cs, entries, hcs, htext, rfl, mirrors_ofMap path.text entries⟩
    · rintro ⟨cs, entries, hcs, htext, rfl, -⟩
      exact ⟨entries, mapEntries_eq_ok_iff.mpr ⟨cs, hcs, htext⟩, rfl⟩
  · rw [loadMap_eq_error_iff h, mapEntries_eq_integer_iff]
  · rcases mapEntries_fault ((loadMap_eq_error_iff h).mp hf) with hcount | ⟨reason, rfl, hcode⟩
    · exact .inl hcount
    · exact .inr ⟨reason, rfl, hcode, rfl⟩
  · rcases htext.short_or_long with hshort | ⟨count, hlong⟩
    · have hentries : mapEntries path bytes = .ok entries :=
        mapEntries_eq_ok_iff.mpr ⟨cs, hbytes, hshort⟩
      exact .inl ⟨_, (loadMap_eq_ok_iff h).mpr ⟨entries, hentries, rfl⟩, mirrors_ofMap path.text entries⟩
    · exact .inr ⟨count, (loadMap_eq_error_iff h).mpr
        (mapEntries_eq_integer_iff.mpr ⟨cs, hbytes, hlong⟩)⟩

/-- A tree of one file, `a.json`. -/
def fileTree (bytes : Bytes) : Tree := (Tree.empty []).put ["a.json"] (.file bytes)

theorem read_fileTree (bytes : Bytes) : (fileTree bytes).read (.ofText "a.json") = .ok bytes := rfl

/-- The text of a map with an integer of so many nines. -/
def ninesText (count : Nat) : List Char :=
  '\x7b' :: (['"', 'a', '"', ':', ' '] ++ (List.replicate count '9' ++ ['\x7d']))

/-- The map that it stands for. -/
def ninesMap (count : Nat) : List (String × Value) :=
  [("a", .int (Json.ofDigits (List.replicate count '9')))]

theorem isWhole_nines {count : Nat} (h : 0 < count) : Json.IsWhole (List.replicate count '9') where
  nonempty := by simp [Nat.ne_of_gt h]
  digits c hc := by
    rw [List.eq_of_mem_replicate hc]
    rfl
  zero hzero := by
    rw [List.head?_replicate, if_neg (Nat.ne_of_gt h)] at hzero
    cases hzero

theorem label_a : Json.Label ['"', 'a', '"', ':', ' '] "a" := by
  have hkey : Json.Spells ['a'] [.char 'a'] := .plain (by decide) (by decide) (by decide) .nil
  have hafter : Json.IsBlanks [' '] := by simp [Json.IsBlanks, Json.isBlank]
  exact .mk hkey Json.isBlanks_nil hafter

theorem isText_nines {count limit : Nat} (h : 0 < count) (hlimit : count ≤ limit) :
    Json.IsText limit (ninesText count) (.map (ninesMap count)) := by
  have hshort : (List.replicate count '9').length ≤ limit := by simpa using hlimit
  have hnumber := Json.Denotes.number (.integer false (isWhole_nines h) hshort)
  have hmap := Json.Denotes.map Json.isBlanks_nil (.last label_a hnumber Json.isBlanks_nil)
  exact ⟨[], ninesText count, [], Json.isBlanks_nil, hmap, Json.isBlanks_nil, by simp⟩

theorem isOverlong_nines {count : Nat} (h : digitLimit < count) :
    Json.IsOverlong count (ninesText count) := by
  have hrest : ¬ Json.Continues ['\x7d'] := (Json.follows_cons (.inr (.inr rfl)) []).not_continues
  have hnumber := Json.Overlong.number false (isWhole_nines (Nat.zero_lt_of_lt h)) (List.length_replicate ..)
    h hrest
  have hmap := Json.Overlong.map Json.isBlanks_nil (.here label_a hnumber)
  exact ⟨[], ninesText count, Json.isBlanks_nil, hmap, rfl⟩

/-- A file of a map is loaded. -/
theorem loadMap_settles_nine :
    (fileTree (encodeUtf8 (ninesText 1))).read (.ofText "a.json") = .ok (encodeUtf8 (ninesText 1)) ∧
    ∃ loaded, loadMap (fileTree (encodeUtf8 (ninesText 1))) (.ofText "a.json") = .ok loaded ∧
      loaded.source.Mirrors (ninesMap 1) := by
  have hread := read_fileTree (encodeUtf8 (ninesText 1))
  have htext : Json.IsText digitLimit (ninesText 1) (.map (ninesMap 1)) := isText_nines (by decide) (by decide)
  have hmirrors := mirrors_ofMap (Path.ofText "a.json").text (ninesMap 1)
  exact ⟨hread, _, ((loadMap_settles hread).1 _).mpr ⟨_, _, rfl, htext, rfl, hmirrors⟩, hmirrors⟩

/-- A JSON text of a map that breaks the loader off. -/
theorem loadMap_nines :
    (fileTree (encodeUtf8 (ninesText 4301))).read (.ofText "a.json") = .ok (encodeUtf8 (ninesText 4301)) ∧
    Json.IsText 4301 (ninesText 4301) (.map (ninesMap 4301)) ∧
    loadMap (fileTree (encodeUtf8 (ninesText 4301))) (.ofText "a.json") =
      .error (.integer (.tooManyDigits 4301)) := by
  have hread := read_fileTree (encodeUtf8 (ninesText 4301))
  have hlong : Json.IsOverlong 4301 (ninesText 4301) := isOverlong_nines (by decide)
  exact ⟨hread, isText_nines (by decide) (Nat.le_refl _),
    (loadMap_eq_error_iff hread).mpr (mapEntries_eq_integer_iff.mpr ⟨_, rfl, hlong⟩)⟩

end Load

end Localize.Source
