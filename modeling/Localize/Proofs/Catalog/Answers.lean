/-
  What a message catalog answers. A key has a value just if a message of exactly this id can be used:
  it is singular, has no context, is certain and has a text. The last one of these decides, and every
  other message makes no difference (`texts_skip`). So a catalog that is loaded answers every key, and the
  empty one, which is the id of the header, never has a value (`loadCatalog_answers`).
-/
import Localize.Proofs.Source.Suffix
import Mathlib.Data.List.Induction

namespace Localize.Catalog

/-! ## Messages that can be used -/

/-- A message that can be used wherever its id occurs. -/
structure Message.Usable (m : Message) : Prop where
  singular : m.plural = false
  bare : m.context = none
  certain : m.fuzzy = false
  localized : m.text ≠ ""

theorem Message.localizes_iff {m : Message} : m.localizes = true ↔ m.id ≠ "" ∧ m.Usable := by
  unfold localizes
  simp only [Bool.and_eq_true, decide_eq_true_eq, Bool.not_eq_true']
  constructor
  · rintro ⟨⟨⟨⟨hid, hplural⟩, hcontext⟩, hfuzzy⟩, htext⟩
    exact ⟨hid, hplural, hcontext, hfuzzy, htext⟩
  · rintro ⟨hid, h⟩
    exact ⟨⟨⟨⟨hid, h.singular⟩, h.bare⟩, h.certain⟩, h.localized⟩

/-- The last message of an id that can be used. -/
def IsLast (messages : List Message) (key : String) (m : Message) : Prop :=
  ∃ front back, messages = front ++ m :: back ∧ m.id = key ∧ m.Usable ∧
    ∀ other ∈ back, other.id = key → ¬other.Usable

section Messages

variable {messages : List Message} {key : String} {m : Message}

/-- One more message is the last one of its id, or it leaves the last one what it was. -/
theorem isLast_concat {last : Message} :
    IsLast (messages ++ [last]) key m ↔
      (last.id = key ∧ last.Usable ∧ m = last) ∨
        (¬(last.id = key ∧ last.Usable) ∧ IsLast messages key m) := by
  constructor
  · rintro ⟨front, back, hsplit, hid, husable, hback⟩
    rcases List.eq_nil_or_concat' back with rfl | ⟨back, other, rfl⟩
    · obtain ⟨-, hlast⟩ := List.append_inj' hsplit rfl
      cases hlast
      exact .inl ⟨hid, husable, rfl⟩
    · rw [← List.cons_append, ← List.append_assoc] at hsplit
      obtain ⟨hfront, hlast⟩ := List.append_inj' hsplit rfl
      cases hlast
      refine .inr ⟨fun h => hback last (by simp) h.1 h.2, front, back, hfront, hid, husable, ?_⟩
      exact fun other hother => hback other (by simp [hother])
  · rintro (⟨hid, husable, rfl⟩ | ⟨hother, front, back, rfl, hid, husable, hback⟩)
    · exact ⟨messages, [], rfl, hid, husable, nofun⟩
    · refine ⟨front, back ++ [last], by simp, hid, husable, fun other hmem hkey hother' => ?_⟩
      rcases List.mem_append.mp hmem with hmem | hmem
      · exact hback other hmem hkey hother'
      · cases List.mem_singleton.mp hmem
        exact hother ⟨hkey, hother'⟩

/-- Where a message of an id can be used there is a last one. -/
theorem exists_isLast_iff :
    (∃ m, IsLast messages key m) ↔ ∃ m ∈ messages, m.id = key ∧ m.Usable := by
  constructor
  · rintro ⟨m, front, back, rfl, hid, husable, -⟩
    exact ⟨m, by simp, hid, husable⟩
  · rintro ⟨m, hm, hid, husable⟩
    induction messages using List.reverseRecOn with
    | nil => cases hm
    | append_singleton messages last ih =>
      by_cases hlast : last.id = key ∧ last.Usable
      · exact ⟨last, isLast_concat.mpr (.inl ⟨hlast.1, hlast.2, rfl⟩)⟩
      · rcases List.mem_append.mp hm with hm | hm
        · obtain ⟨m', hm'⟩ := ih hm
          exact ⟨m', isLast_concat.mpr (.inr ⟨hlast, hm'⟩)⟩
        · cases List.mem_singleton.mp hm
          exact absurd ⟨hid, husable⟩ hlast

/-! ## The table of texts -/

theorem texts_concat (messages : List Message) (last : Message) :
    texts (messages ++ [last]) =
      if last.localizes then setEntry last.id last.text (texts messages) else texts messages := by
  unfold texts
  rw [List.foldl_concat]

/-- A message that is skipped neither hides nor changes what another one says. -/
theorem texts_skip (front back : List Message) (h : m.id = "" ∨ ¬m.Usable) :
    texts (front ++ m :: back) = texts (front ++ back) := by
  have hskipped : ¬m.localizes = true := by
    rw [Message.localizes_iff]
    rintro ⟨hid, husable⟩
    exact h.elim hid fun hunusable => hunusable husable
  unfold texts
  rw [List.foldl_append, List.foldl_append, List.foldl_cons, if_neg hskipped]

/-- The text of a key is that of its last message. -/
theorem valueAt?_texts_iff {text : String} :
    valueAt? key (texts messages) = some text ↔
      key ≠ "" ∧ ∃ m, IsLast messages key m ∧ m.text = text := by
  induction messages using List.reverseRecOn with
  | nil =>
    refine ⟨nofun, ?_⟩
    rintro ⟨-, m, ⟨front, back, hsplit, -⟩, -⟩
    exact absurd hsplit (by simp)
  | append_singleton messages last ih =>
    rw [texts_concat]
    by_cases hlocalizes : last.localizes = true ∧ key = last.id
    · obtain ⟨hlast, rfl⟩ := hlocalizes
      obtain ⟨hid, husable⟩ := Message.localizes_iff.mp hlast
      rw [if_pos hlast, valueAt?_setEntry, if_pos rfl]
      constructor
      · intro htext
        exact ⟨hid, last, isLast_concat.mpr (.inl ⟨rfl, husable, rfl⟩), Option.some.inj htext⟩
      · rintro ⟨-, m, hm, rfl⟩
        rcases isLast_concat.mp hm with ⟨-, -, rfl⟩ | ⟨hother, -⟩
        · rfl
        · exact absurd ⟨rfl, husable⟩ hother
    · have hsame : valueAt? key (if last.localizes then setEntry last.id last.text (texts messages)
          else texts messages) = valueAt? key (texts messages) := by
        split
        · rename_i hlast
          rw [valueAt?_setEntry, if_neg fun hkey => hlocalizes ⟨hlast, hkey⟩]
        · rfl
      rw [hsame, ih]
      refine and_congr_right fun hkey => exists_congr fun m => and_congr_left fun _ => ?_
      have hother : ¬(last.id = key ∧ last.Usable) := by
        rintro ⟨rfl, husable⟩
        exact hlocalizes ⟨Message.localizes_iff.mpr ⟨hkey, husable⟩, rfl⟩
      rw [isLast_concat]
      exact ⟨fun hm => .inr ⟨hother, hm⟩,
        fun hm => hm.elim (fun hm => absurd ⟨hm.1, hm.2.1⟩ hother) And.right⟩

end Messages

/-! ## Answers -/

/-- A source that answers keys by the messages of a catalog. -/
structure Answers (s : Source) (messages : List Message) : Prop where
  found : ∀ key, (∃ value, s.resolve key = .ok (some value)) ↔
    key ≠ "" ∧ ∃ m ∈ messages, m.id = key ∧ m.Usable
  last : ∀ key value, s.resolve key = .ok (some value) →
    ∃ m, IsLast messages key m ∧ value = .text m.text
  /-- A key without a value is missed, and is no fault. -/
  missed : ∀ key, (∀ value, s.resolve key ≠ .ok (some value)) → s.resolve key = .ok none
  empty : s.resolve "" = .ok none

theorem resolve_source_iff (name : String) (messages : List Message) (key : String) (value : Value) :
    (source name messages).resolve key = .ok (some value) ↔
      key ≠ "" ∧ ∃ m, IsLast messages key m ∧ value = .text m.text := by
  rw [Source.resolve_catalog, Except.ok.injEq, Option.map_eq_some_iff]
  constructor
  · rintro ⟨text, htext, rfl⟩
    obtain ⟨hkey, m, hm, rfl⟩ := valueAt?_texts_iff.mp htext
    exact ⟨hkey, m, hm, rfl⟩
  · rintro ⟨hkey, m, hm, rfl⟩
    exact ⟨m.text, valueAt?_texts_iff.mpr ⟨hkey, m, hm, rfl⟩, rfl⟩

theorem source_answers (name : String) (messages : List Message) :
    Answers (source name messages) messages := by
  have hmissed (key : String) (hnone : ∀ value, (source name messages).resolve key ≠ .ok (some value)) :
      (source name messages).resolve key = .ok none := by
    rw [Source.resolve_catalog] at hnone ⊢
    rcases hvalue : valueAt? key (texts messages) with _ | text
    · rfl
    · exact absurd (congrArg (fun t => Except.ok (t.map Value.text)) hvalue) (hnone (.text text))
  constructor
  · intro key
    rw [← exists_isLast_iff]
    constructor
    · rintro ⟨value, hvalue⟩
      obtain ⟨hkey, m, hm, -⟩ := (resolve_source_iff name messages key value).mp hvalue
      exact ⟨hkey, m, hm⟩
    · rintro ⟨hkey, m, hm⟩
      exact ⟨_, (resolve_source_iff name messages key _).mpr ⟨hkey, m, hm, rfl⟩⟩
  · exact fun key value hvalue => ((resolve_source_iff name messages key value).mp hvalue).2
  · exact hmissed
  · exact hmissed "" fun value hvalue =>
      ((resolve_source_iff name messages "" value).mp hvalue).1 rfl

theorem loadCatalog_eq_ok_iff (readers : Readers) (t : Tree) (p : Path) (loaded : Source.Loaded) :
    Source.loadCatalog true t p readers = .ok loaded ↔
      ∃ bytes messages, t.read p = .ok bytes ∧ Source.messages readers p bytes = .ok messages ∧
        loaded = ⟨source p.text messages, .loadedCatalog p.text (texts messages).length⟩ := by
  rcases hread : t.read p with f | bytes
  · unfold Source.loadCatalog
    rw [hread]
    exact ⟨nofun, nofun⟩
  · rw [Source.loadCatalog_of_read hread]
    rcases hmessages : Source.messages readers p bytes with f | messages
    · refine ⟨nofun, ?_⟩
      rintro ⟨_, _, hbytes, hother, -⟩
      cases hbytes
      cases hmessages.symm.trans hother
    · constructor
      · intro h
        cases h
        exact ⟨bytes, messages, rfl, hmessages, rfl⟩
      · rintro ⟨_, _, hbytes, hother, rfl⟩
        cases hbytes
        cases hmessages.symm.trans hother
        rfl

/-- Whatever the readers of catalogs are, a catalog is loaded just if its messages are read, and the source
answers each key by the last of these that has the key for its id and can be used. This holds for any messages
in any order, and a message that is skipped can as well be left out. -/
theorem loadCatalog_answers :
    (∀ readers t p loaded, Source.loadCatalog true t p readers = .ok loaded ↔
      ∃ bytes messages, t.read p = .ok bytes ∧ Source.messages readers p bytes = .ok messages ∧
        loaded = ⟨source p.text messages, .loadedCatalog p.text (texts messages).length⟩) ∧
    ∀ name messages, Answers (source name messages) messages ∧
      ∀ front m back, messages = front ++ m :: back → (m.id = "" ∨ ¬m.Usable) →
        ∀ key, (source name messages).resolve key = (source name (front ++ back)).resolve key := by
  refine ⟨loadCatalog_eq_ok_iff, fun name messages => ⟨source_answers name messages, ?_⟩⟩
  rintro front m back rfl hskipped key
  rw [Source.resolve_catalog, Source.resolve_catalog, texts_skip front back hskipped]

/-- Messages of one id: two that can be used, and behind them one with a plural, one with a context, one
that is not certain and one without a text. -/
def crowded : List Message :=
  [{ id := "", text := "Language: de\n" }, { id := "a.b[0]", text := "first" },
    { id := "a.b[0]", text := "second" }, { id := "a.b[0]", text := "many", plural := true },
    { id := "a.b[0]", text := "menu", context := some "" },
    { id := "a.b[0]", text := "perhaps", fuzzy := true }, { id := "a.b[0]" }]

/-- A portable catalog with one message. -/
def portableSample : Text.Bytes := Text.encodeUtf8 "msgid \"a\"\nmsgstr \"A\"\n".toList

/-- The readers at hand load this catalog. Of the messages before, the id has a value, the empty one has none,
and the header can as well be left out. -/
theorem loadCatalog_answers_crowded :
    (Source.loadCatalog true ⟨[], [(["de.po"], .file portableSample)]⟩ (.ofText "de.po") =
        .ok ⟨source "de.po" [{ id := "a", text := "A" }], .loadedCatalog "de.po" 1⟩) ∧
      (∃ value, (source "de.po" crowded).resolve "a.b[0]" = .ok (some value)) ∧
      (source "de.po" crowded).resolve "" = .ok none ∧
      crowded = [] ++ { id := "", text := "Language: de\n" } :: crowded.tail ∧
      ∀ key, (source "de.po" crowded).resolve key = (source "de.po" crowded.tail).resolve key := by
  obtain ⟨hanswers, hskip⟩ := loadCatalog_answers.2 "de.po" crowded
  have husable : ({ id := "a.b[0]", text := "second" } : Message).Usable := ⟨rfl, rfl, rfl, by decide⟩
  have hread : (⟨[], [(["de.po"], .file portableSample)]⟩ : Tree).read (.ofText "de.po") =
      .ok portableSample := by decide +kernel
  have hmessages : Source.messages .atHand (.ofText "de.po") portableSample =
      .ok [{ id := "a", text := "A" }] := by decide +kernel
  have hload := (loadCatalog_answers.1 .atHand _ (.ofText "de.po") _).mpr ⟨_, _, hread, hmessages, rfl⟩
  refine ⟨hload, (hanswers.found "a.b[0]").mpr ⟨by decide, _, ?_, rfl, husable⟩, hanswers.empty, rfl, ?_⟩
  · decide
  · exact hskip [] _ crowded.tail rfl (.inl rfl)

example : (source "de.po" crowded).resolve "a.b[0]" = .ok (some (.text "second")) := rfl

end Localize.Catalog
