/-
  The letter case of a suffix. Outcomes of loading are `Alike` if both are sources of one kind with the
  same answers, or both are faults that differ in the path at most. Two files with one content, of which one
  has the suffix of the other in lower case, are loaded alike if they are maps of localizations or portable
  catalogs, whatever the readers of catalogs are. A compiled catalog under another spelling of its suffix is
  read as a portable one instead, so it is loaded alike only where the two readers agree on its content
  (`load_alike_iff`), and with the readers at hand it is not (`load_capital`).
-/
import Localize.File.Listing
import Localize.Proofs.File.Tree
import Localize.Source.Load

namespace Localize

open Text (Bytes lowerCase)

/-! ## Outcomes that are alike -/

/-- Sources of one kind that answer every key alike. -/
def Source.Alike : Source → Source → Prop
  | function name lookup, function name' lookup' =>
    ∀ key, (function name lookup).resolve key = (function name' lookup').resolve key
  | mapping name entries, mapping name' entries' =>
    ∀ key, (mapping name entries).resolve key = (mapping name' entries').resolve key
  | _, _ => False

/-- Faults that differ in the path at most. Those of a path have the same code. -/
def LoadFault.Alike : LoadFault → LoadFault → Prop
  | source _ reason, source _ reason' => reason.code = reason'.code
  | f, f' => f = f'

namespace Source

/-- Outcomes of loading that differ in the path at most. -/
def LoadsAlike : Except LoadFault Loaded → Except LoadFault Loaded → Prop
  | .ok loaded, .ok loaded' => loaded.source.Alike loaded'.source
  | .error f, .error f' => f.Alike f'
  | _, _ => False

end Source

/-- Messages of catalogs that localize the same texts in the same way, or that cannot be read. -/
def Catalog.Agree : Except CatalogFault (List Message) → Except CatalogFault (List Message) → Prop
  | .ok messages, .ok messages' =>
    ∀ key, valueAt? key (texts messages) = valueAt? key (texts messages')
  | .error _, .error _ => True
  | _, _ => False

namespace Source

section Content

variable {t t' : Tree} {p p' : Path} {bytes : Bytes} {readers : Catalog.Readers}

/-! ## Maps of localizations -/

theorem loadMap_of_read (h : t.read p = .ok bytes) :
    loadMap t p = (mapEntries p bytes).map fun entries =>
      ⟨.ofMap p.text entries, .loadedMap p.text entries.length⟩ := by
  unfold loadMap
  rw [h]
  dsimp only [Except.mapError, bind, Except.bind]
  rcases mapEntries p bytes with f | entries
  · rfl
  · rfl

/-- The entries of a content do not depend on its path, and neither does the code of its fault. -/
theorem mapEntries_alike (p p' : Path) (bytes : Bytes) :
    (∃ entries, mapEntries p bytes = .ok entries ∧ mapEntries p' bytes = .ok entries) ∨
      ∃ f f', mapEntries p bytes = .error f ∧ mapEntries p' bytes = .error f' ∧ f.Alike f' := by
  unfold mapEntries
  rcases Text.decodeUtf8 bytes with f | cs
  · exact .inr ⟨_, _, rfl, rfl, rfl⟩
  · dsimp only [Except.mapError, bind, Except.bind]
    split
    · exact .inl ⟨_, rfl, rfl⟩
    · exact .inr ⟨_, _, rfl, rfl, rfl⟩
    · exact .inr ⟨_, _, rfl, rfl, rfl⟩
    · exact .inr ⟨_, _, rfl, rfl, rfl⟩

/-- Maps with the same content are loaded alike from any paths. -/
theorem loadMap_alike (h : t.read p = .ok bytes) (h' : t'.read p' = .ok bytes) :
    LoadsAlike (loadMap t p) (loadMap t' p') := by
  rw [loadMap_of_read h, loadMap_of_read h']
  rcases mapEntries_alike p p' bytes with ⟨entries, hp, hp'⟩ | ⟨f, f', hp, hp', halike⟩
  · rw [hp, hp']
    exact fun key => rfl
  · rw [hp, hp']
    exact halike

/-! ## Catalogs -/

theorem resolve_catalog (name : String) (messages : List Catalog.Message) (key : String) :
    (Catalog.source name messages).resolve key =
      .ok ((valueAt? key (Catalog.texts messages)).map Value.text) := by
  have hlookup : ∀ table : List (String × String),
      defined ((valueAt? key (table.map fun e => (e.1, Value.text e.2))).getD .null) =
        (valueAt? key table).map Value.text := by
    intro table
    induction table with
    | nil => rfl
    | cons entry rest ih =>
      obtain ⟨id, text⟩ := entry
      rw [List.map_cons, valueAt?, valueAt?]
      by_cases hid : id = key
      · rw [if_pos hid, if_pos hid]
        rfl
      · rw [if_neg hid, if_neg hid]
        exact ih
  exact congrArg Except.ok (hlookup (Catalog.texts messages))

theorem loadCatalog_of_read (h : t.read p = .ok bytes) :
    loadCatalog true t p readers =
      ((messages readers p bytes).mapError fun f => .source p (.catalog f)).map fun messages =>
        ⟨Catalog.source p.text messages,
          .loadedCatalog p.text (Catalog.texts messages).length⟩ := by
  unfold loadCatalog
  rw [h]
  dsimp only [Except.mapError, bind, Except.bind]
  rcases messages readers p bytes with f | ms
  · rfl
  · rfl

/-- Catalogs with the same content are loaded alike just if their readers agree on it. -/
theorem loadCatalog_alike_iff (h : t.read p = .ok bytes) (h' : t'.read p' = .ok bytes) :
    LoadsAlike (loadCatalog true t p readers) (loadCatalog true t' p' readers) ↔
      Catalog.Agree (messages readers p bytes) (messages readers p' bytes) := by
  rw [loadCatalog_of_read h, loadCatalog_of_read h']
  rcases messages readers p bytes with f | ms
  · rcases messages readers p' bytes with f' | ms'
    · exact ⟨fun _ => trivial, fun _ => rfl⟩
    · exact Iff.rfl
  · rcases messages readers p' bytes with f' | ms'
    · exact Iff.rfl
    · show (∀ key, (Catalog.source p.text ms).resolve key = (Catalog.source p'.text ms').resolve key) ↔
        ∀ key, _
      refine forall_congr' fun key => ?_
      rw [resolve_catalog, resolve_catalog, Except.ok.injEq]
      exact (Option.map_injective fun _ _ heq => Value.text.inj heq).eq_iff

theorem agree_refl (x : Except Catalog.CatalogFault (List Catalog.Message)) : Catalog.Agree x x := by
  rcases x with f | ms
  · trivial
  · exact fun key => rfl

/-! ## Suffixes -/

/-- The suffixes that a source can have, in lower case. -/
def suffixes : List String := [".json", ".po", ".mo"]

theorem lowerCase_of_mem_suffixes {suffix : String} (h : suffix ∈ suffixes) :
    lowerCase suffix = suffix := by
  have hall : ∀ suffix ∈ suffixes, lowerCase suffix = suffix := by decide
  exact hall suffix h

/-- How a source is loaded whose suffix is known. -/
theorem load_of_suffix (catalogs : Bool) (t : Tree) {p : Path} (h : lowerCase p.suffix ∈ suffixes) :
    load catalogs t p readers =
      if lowerCase p.suffix = ".json" then loadMap t p else loadCatalog catalogs t p readers := by
  unfold load
  have hcases : lowerCase p.suffix = ".json" ∨ lowerCase p.suffix = ".po" ∨
      lowerCase p.suffix = ".mo" := by simpa [suffixes] using h
  rcases hcases with hs | hs | hs
  · rw [hs]
    rfl
  · rw [hs]
    rfl
  · rw [hs]
    rfl

theorem isCompiled_iff {p : Path} : isCompiled p = true ↔ p.suffix = ".mo" := decide_eq_true_iff

/-- Where catalogs cannot be read, they are loaded alike just if both or none of them are compiled. -/
theorem loadCatalog_false_alike_iff :
    LoadsAlike (loadCatalog false t p readers) (loadCatalog false t' p' readers) ↔
      isCompiled p = isCompiled p' := by
  have hfault : ∀ (t : Tree) (p : Path), loadCatalog false t p readers =
      .error (.noCatalogs (if isCompiled p then "MO" else "PO")) := fun _ _ => rfl
  rw [hfault, hfault]
  show LoadFault.noCatalogs _ = LoadFault.noCatalogs _ ↔ _
  cases isCompiled p <;> cases isCompiled p' <;> simp

/-- Catalogs with the same content are loaded alike if both or none of them are compiled. -/
theorem loadCatalog_alike (catalogs : Bool) (h : t.read p = .ok bytes) (h' : t'.read p' = .ok bytes)
    (hcompiled : isCompiled p = isCompiled p') :
    LoadsAlike (loadCatalog catalogs t p readers) (loadCatalog catalogs t' p' readers) := by
  cases catalogs with
  | false => exact loadCatalog_false_alike_iff.mpr hcompiled
  | true =>
    have hmessages : messages readers p bytes = messages readers p' bytes := by
      unfold messages
      rw [hcompiled]
    rw [loadCatalog_alike_iff h h', hmessages]
    exact agree_refl _

/-- A catalog that is not taken for a compiled one is loaded like a compiled one of the same content just if
catalogs can be read and both readers agree on the content. -/
theorem loadCatalog_alike_compiled_iff (catalogs : Bool) (h : t.read p = .ok bytes)
    (h' : t'.read p' = .ok bytes) (hportable : isCompiled p = false) (hcompiled : isCompiled p' = true) :
    LoadsAlike (loadCatalog catalogs t p readers) (loadCatalog catalogs t' p' readers) ↔
      catalogs = true ∧ Catalog.Agree (readers.portable bytes) (readers.compiled bytes) := by
  cases catalogs with
  | false =>
    rw [loadCatalog_false_alike_iff, hportable, hcompiled]
    simp
  | true =>
    rw [loadCatalog_alike_iff h h']
    unfold messages
    rw [hportable, hcompiled]
    simp

/-- Whatever the readers of catalogs make of a content, two files with this content, of which one has the
suffix of the other in lower case, are loaded alike, unless the suffix is another spelling of that of a
compiled catalog. Such a file is read as a portable catalog, and loaded alike just if catalogs can be read and
both readers agree on its content. -/
theorem load_alike_iff (readers : Catalog.Readers) (catalogs : Bool) (h : t.read p = .ok bytes)
    (h' : t'.read p' = .ok bytes) (hsuffix : p'.suffix = lowerCase p.suffix)
    (hknown : p'.suffix ∈ suffixes) :
    LoadsAlike (load catalogs t p readers) (load catalogs t' p' readers) ↔
      (p'.suffix = ".mo" → p.suffix ≠ ".mo" →
        catalogs = true ∧ Catalog.Agree (readers.portable bytes) (readers.compiled bytes)) := by
  have hlower : lowerCase p'.suffix = p'.suffix := lowerCase_of_mem_suffixes hknown
  rw [load_of_suffix catalogs t (hsuffix ▸ hknown), load_of_suffix catalogs t' (hlower.symm ▸ hknown),
    hlower, ← hsuffix]
  by_cases hmap : p'.suffix = ".json"
  · rw [if_pos hmap, if_pos hmap, hmap]
    exact iff_of_true (loadMap_alike h h') nofun
  · rw [if_neg hmap, if_neg hmap]
    by_cases hmo : p'.suffix = ".mo"
    · have hcompiled' : isCompiled p' = true := isCompiled_iff.mpr hmo
      by_cases hsame : p.suffix = ".mo"
      · have hcompiled : isCompiled p = true := isCompiled_iff.mpr hsame
        exact iff_of_true (loadCatalog_alike catalogs h h' (hcompiled.trans hcompiled'.symm))
          fun _ hother => absurd hsame hother
      · have hportable : isCompiled p = false := decide_eq_false hsame
        rw [loadCatalog_alike_compiled_iff catalogs h h' hportable hcompiled']
        exact ⟨fun halike _ _ => halike, fun halike => halike hmo hsame⟩
    · have hother : p.suffix ≠ ".mo" := by
        intro hsame
        rw [hsame] at hsuffix
        exact hmo (hsuffix.trans (lowerCase_of_mem_suffixes (by decide)))
      have hcompiled : isCompiled p = isCompiled p' :=
        (decide_eq_false hother).trans (decide_eq_false hmo).symm
      exact iff_of_true (loadCatalog_alike catalogs h h' hcompiled) fun hsame => absurd hsame hmo

end Content

/-- A compiled catalog with one message. -/
def compiledSample : Bytes :=
  bytesOfHex ("de12049500000000010000001c00000024000000000000002c000000" ++
    "010000002c000000010000002e00000061004100").toList

/-- A map and a compiled catalog, each under two spellings of its suffix. -/
def suffixTree : Tree where
  home := []
  nodes := [(["fr.JSON"], .file (Text.encodeUtf8 "\x7b\"a\": \"A\"\x7d".toList)),
    (["fr.json"], .file (Text.encodeUtf8 "\x7b\"a\": \"A\"\x7d".toList)),
    (["fr.MO"], .file compiledSample), (["fr.mo"], .file compiledSample)]

/-- A map is loaded alike under both spellings of its suffix. -/
theorem load_alike_map :
    ∃ bytes, suffixTree.read (.ofText "fr.JSON") = .ok bytes ∧
      suffixTree.read (.ofText "fr.json") = .ok bytes ∧
      LoadsAlike (load true suffixTree (.ofText "fr.JSON"))
        (load true suffixTree (.ofText "fr.json")) := by
  have hread : suffixTree.read (.ofText "fr.JSON") =
      .ok (Text.encodeUtf8 "\x7b\"a\": \"A\"\x7d".toList) := by decide +kernel
  have hread' : suffixTree.read (.ofText "fr.json") =
      .ok (Text.encodeUtf8 "\x7b\"a\": \"A\"\x7d".toList) := by decide +kernel
  have hsuffix : (Path.ofText "fr.json").suffix = lowerCase (Path.ofText "fr.JSON").suffix := by
    decide +kernel
  have hmap : (Path.ofText "fr.json").suffix = ".json" := by decide +kernel
  have hknown : (Path.ofText "fr.json").suffix ∈ suffixes := by
    rw [hmap]
    decide
  have hmo : (Path.ofText "fr.json").suffix ≠ ".mo" := by
    rw [hmap]
    decide
  have halike := load_alike_iff .atHand true hread hread' hsuffix hknown
  refine ⟨_, hread, hread', ?_⟩
  rw [halike]
  intro hsame
  exact absurd hsame hmo

/-- A compiled catalog that is loaded under a suffix in lower case is refused under one in capitals. -/
theorem load_capital :
    suffixTree.read (.ofText "fr.MO") = .ok compiledSample ∧
    suffixTree.read (.ofText "fr.mo") = .ok compiledSample ∧
    lowerCase (Path.ofText "fr.MO").suffix = (Path.ofText "fr.mo").suffix ∧
    ((load true suffixTree (.ofText "fr.mo")).toOption.map fun loaded =>
      (loaded.source.resolve "a").toOption.map (·.map Value.shown)) = some (some (some "'A'")) ∧
    (load true suffixTree (.ofText "fr.MO")).toOption.isNone = true := by
  decide +kernel

end Source

end Localize
