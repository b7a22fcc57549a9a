/-
  Diagnostics as JSON objects, one on each line. The object of a diagnostic has an entry for each field and
  none for what the diagnostic lacks (`toldBy_entries`), so it tells the diagnostic up to the empty texts
  that stand for none (`ToldBy.unique`). No object has a line feed in its text (`lineFeeds_object`), so the
  objects of several diagnostics are the lines of their text, each is read back, and the text tells all
  diagnostics (`objects_formatAll`).
-/
import Localize.Proofs.Diagnostic.Lines
import Mathlib.Data.List.Forall2

namespace Localize

open Text (lineFeeds lines)

/-! ## What an object tells -/

/-- The numbers of a location. -/
def Location.numbers (l : Location) : List Int := [l.line, l.column, l.endLine, l.endColumn]

namespace Diagnostic

/-- A diagnostic as far as an object tells it: an empty module or hint is none. -/
def told (d : Diagnostic) : Diagnostic :=
  { d with module := Formatter.nonempty d.module, hint := Formatter.nonempty d.hint }

/-- A diagnostic whose location has numbers that are short enough to be read as integers. -/
def Readable (d : Diagnostic) : Prop :=
  ∀ l ∈ d.location, ∀ n ∈ l.numbers, (Nat.toDigits 10 n.natAbs).length ≤ digitLimit

/-- Entries that tell a diagnostic field by field; what it lacks has no entry. -/
structure ToldBy (d : Diagnostic) (entries : List (String × Value)) : Prop where
  code : valueAt? "code" entries = some (.text d.code.text)
  number : valueAt? "code_value" entries = some (.int d.code.number)
  message : valueAt? "message" entries = some (.text d.message)
  severity : valueAt? "severity" entries = some (.text d.severity.text)
  module : valueAt? "module" entries = (Formatter.nonempty d.module).map .text
  line : valueAt? "line" entries = d.location.map (.int ·.line)
  column : valueAt? "column" entries = d.location.map (.int ·.column)
  endLine : valueAt? "end_line" entries = d.location.map (.int ·.endLine)
  endColumn : valueAt? "end_column" entries = d.location.map (.int ·.endColumn)
  key : valueAt? "key" entries = d.key.map .text
  hint : valueAt? "hint" entries = (Formatter.nonempty d.hint).map .text

theorem code_text_inj {c c' : Code} (h : c.text = c'.text) : c = c' := by
  revert h
  cases c <;> cases c' <;> decide

theorem severity_text_inj {s s' : Severity} (h : s.text = s'.text) : s = s' := by
  revert h
  cases s <;> cases s' <;> decide

/-- Entries tell one diagnostic only. -/
theorem ToldBy.unique {d d' : Diagnostic} {entries : List (String × Value)} (h : d.ToldBy entries)
    (h' : d'.ToldBy entries) : d.told = d'.told := by
  have htext : ∀ t t' : Option String, t.map Value.text = t'.map Value.text → t = t' := fun t t' heq =>
    Option.map_injective (fun a b hab => Value.text.inj hab) heq
  have hcode := code_text_inj (Value.text.inj (Option.some.inj (h.code.symm.trans h'.code)))
  have hmessage := Value.text.inj (Option.some.inj (h.message.symm.trans h'.message))
  have hseverity := severity_text_inj (Value.text.inj (Option.some.inj (h.severity.symm.trans h'.severity)))
  have hmodule := htext _ _ (h.module.symm.trans h'.module)
  have hkey := htext _ _ (h.key.symm.trans h'.key)
  have hhint := htext _ _ (h.hint.symm.trans h'.hint)
  have hlocation : d.location = d'.location := by
    have hline := h.line.symm.trans h'.line
    have hcolumn := h.column.symm.trans h'.column
    have hendLine := h.endLine.symm.trans h'.endLine
    have hendColumn := h.endColumn.symm.trans h'.endColumn
    rcases hl : d.location with _ | ⟨line, column, endLine, endColumn⟩ <;>
      rcases hl' : d'.location with _ | ⟨line', column', endLine', endColumn'⟩ <;>
      simp_all
  unfold told
  rw [hcode, hmessage, hseverity, hmodule, hkey, hhint, hlocation]

end Diagnostic

/-! ## The object of a diagnostic -/

namespace Formatter

section Entries

variable {f : Formatter} {α : Type}

/-- An entry that may be missing. -/
theorem valueAt?_toList (field : Option α) (key k : String) (value : α → Value) :
    valueAt? key (field.map fun x => (k, value x)).toList = if k = key then field.map value else none := by
  rcases field with _ | x
  · simp [valueAt?]
  · rfl

theorem keys_toList (field : Option α) (k : String) (value : α → Value) :
    ((field.map fun x => (k, value x)).toList.map Prod.fst).Sublist [k] := by
  rcases field with _ | x
  · exact List.nil_sublist _
  · exact List.Sublist.refl _

theorem toldBy_entries (h : f.maxLength = 0) (d : Diagnostic) : d.ToldBy (f.entries d) := by
  constructor <;> unfold entries <;> rcases d.location with _ | l <;>
    simp [valueAt?_append, valueAt?_toList, valueAt?, cut_of_unlimited h]

/-- No key comes twice in an object. -/
theorem nodup_entries (f : Formatter) (d : Diagnostic) : ((f.entries d).map Prod.fst).Nodup := by
  have hkeys : ((f.entries d).map Prod.fst).Sublist
      (["code", "code_value", "message", "severity"] ++ ["module"] ++
        ["line", "column", "end_line", "end_column"] ++ ["key"] ++ ["hint"]) := by
    -- Whatever is missing, the others keep their order.
    unfold entries
    simp only [List.map_append]
    refine ((((List.Sublist.refl _).append (keys_toList _ _ _)).append ?_).append
      (keys_toList _ _ _)).append (keys_toList _ _ _)
    rcases d.location with _ | l
    · exact List.nil_sublist _
    · exact List.Sublist.refl _
  exact List.Nodup.sublist hkeys (by decide)

/-- An object has texts, the number of the code and those of the location. -/
theorem value_of_mem_entries {d : Diagnostic} {e : String × Value} (he : e ∈ f.entries d) :
    (∃ s, e.2 = .text s) ∨ e.2 = .int d.code.number ∨
      ∃ l ∈ d.location, ∃ n ∈ l.numbers, e.2 = .int n := by
  unfold entries at he
  simp only [List.mem_append, Option.mem_toList, Option.map_eq_some_iff, List.mem_cons, List.not_mem_nil,
    or_false] at he
  obtain ((((rfl | rfl | rfl | rfl) | ⟨m, -, rfl⟩) | he) | ⟨k, -, rfl⟩) | ⟨t, -, rfl⟩ := he
  · exact .inl ⟨_, rfl⟩
  · exact .inr (.inl rfl)
  · exact .inl ⟨_, rfl⟩
  · exact .inl ⟨_, rfl⟩
  · exact .inl ⟨_, rfl⟩
  · rcases hl : d.location with _ | l
    · rw [hl] at he
      cases he
    · rw [hl] at he
      refine .inr (.inr ⟨l, rfl, ?_⟩)
      simp only [List.mem_cons, List.not_mem_nil, or_false] at he
      obtain rfl | rfl | rfl | rfl := he <;> exact ⟨_, by simp [Location.numbers], rfl⟩
  · exact .inl ⟨_, rfl⟩
  · exact .inl ⟨_, rfl⟩

theorem flat_entries (f : Formatter) (d : Diagnostic) : ∀ e ∈ f.entries d, Json.Flat e.2 := by
  intro e he
  obtain ⟨s, hs⟩ | hcode | ⟨l, -, n, -, hn⟩ := value_of_mem_entries he
  · exact hs ▸ .text s
  · exact hcode ▸ .int _
  · exact hn ▸ .int n

theorem plain_entries (f : Formatter) {d : Diagnostic} (h : d.Readable) :
    Json.Plain (.map (f.entries d)) := by
  have hcodes : ∀ c : Code, (Nat.toDigits 10 (c.number : Int).natAbs).length ≤ digitLimit := by
    intro c
    cases c <;> decide
  refine .map (nodup_entries f d) fun e he => ?_
  obtain ⟨s, hs⟩ | hcode | ⟨l, hl, n, hn, hvalue⟩ := value_of_mem_entries he
  · exact hs ▸ .text s
  · exact hcode ▸ .int _ (hcodes d.code)
  · exact hvalue ▸ .int n (h l hl n hn)

end Entries

theorem format_json {f : Formatter} (h : f.style = .json) (d : Diagnostic) :
    f.format d = Json.write (.map (f.entries d)) := by
  unfold format
  rw [h]

/-- An object stands in one line. -/
theorem lineFeeds_object {f : Formatter} (h : f.style = .json) (d : Diagnostic) :
    lineFeeds (f.format d) = 0 := by
  rw [format_json h]
  exact Text.lineFeeds_of_visible (Json.visible_map (flat_entries f d))

theorem lines_objects {f : Formatter} (h : f.style = .json) {ds : List Diagnostic} (hne : ds ≠ []) :
    lines (f.formatAll ds) = ds.map f.format :=
  lines_formatAll (by rw [h]; rfl) hne fun d _ => lineFeeds_object h d

/-- What is not told of a diagnostic makes no difference to its object. -/
theorem entries_told (f : Formatter) (d : Diagnostic) : f.entries d.told = f.entries d := by
  have htwice : ∀ text : Option String, nonempty (nonempty text) = nonempty text := by
    intro text
    simp [nonempty, Option.filter_filter]
  unfold entries
  simp only [Diagnostic.told, htwice]

theorem format_eq_iff {f : Formatter} (hstyle : f.style = .json) (hlimit : f.maxLength = 0)
    (d d' : Diagnostic) : f.format d = f.format d' ↔ d.told = d'.told := by
  rw [format_json hstyle, format_json hstyle]
  constructor
  · intro h
    have hentries := Json.write_map_inj (flat_entries f d) (flat_entries f d') h
    exact (toldBy_entries hlimit d).unique (hentries ▸ toldBy_entries hlimit d')
  · intro h
    rw [← entries_told, h, entries_told]

/-! ## The objects of several diagnostics -/

/-- Written as objects in full, diagnostics stand on a line each, and nothing else does. Each line tells
its diagnostic field by field, and is read as what it tells unless a number of the location has too many
digits to be read at all. Two lists have one text just if they are the same as far as it is told. -/
theorem objects_formatAll (f : Formatter) (hstyle : f.style = .json) (hlimit : f.maxLength = 0)
    {ds : List Diagnostic} (hne : ds ≠ []) :
    List.Forall₂ (fun d line => ∃ entries, d.ToldBy entries ∧ line = Json.write (.map entries) ∧
        (d.Readable → Json.read line = .ok (.map entries))) ds (lines (f.formatAll ds)) ∧
      ∀ ds' : List Diagnostic, ds' ≠ [] →
        (f.formatAll ds = f.formatAll ds' ↔ ds.map Diagnostic.told = ds'.map Diagnostic.told) := by
  refine ⟨?_, fun ds' hne' => ?_⟩
  · rw [lines_objects hstyle hne, List.forall₂_map_right_iff, List.forall₂_same]
    intro d _
    refine ⟨f.entries d, toldBy_entries hlimit d, format_json hstyle d, fun hread => ?_⟩
    rw [format_json hstyle]
    exact Json.read_write (plain_entries f hread)
  · have hlines : f.formatAll ds = f.formatAll ds' ↔ ds.map f.format = ds'.map f.format := by
      constructor
      · intro h
        rw [← lines_objects hstyle hne, ← lines_objects hstyle hne', h]
      · intro h
        rw [formatAll, formatAll, h]
    have htold : ∀ (α : Type) (g : Diagnostic → α), ds.map g = ds'.map g ↔
        List.Forall₂ (fun d d' => g d = g d') ds ds' := by
      intro α g
      rw [← List.forall₂_eq_eq_eq, List.forall₂_map_left_iff, List.forall₂_map_right_iff]
    rw [hlines, htold, htold]
    simp only [format_eq_iff hstyle hlimit]

/-- A formatter that writes objects. -/
def objectFormatter : Formatter := { style := .json }

/-- A diagnostic with a line feed and quotes in its message, and with an empty module. -/
def quoting : Diagnostic where
  code := .missingLocalization
  message := "a\n\"b\""
  severity := .warning
  module := some ""
  location := some (.point 3 5)
  key := some "\t"

/-- Two such diagnostics stand on two lines. The first line is read as what the diagnostic has, and the text
is that of the diagnostics without their empty modules. -/
theorem objects_formatAll_quoting :
    objectFormatter.style = .json ∧ objectFormatter.maxLength = 0 ∧ [quoting, quoting] ≠ [] ∧
      (∃ first second entries, lines (objectFormatter.formatAll [quoting, quoting]) = [first, second] ∧
        Json.read first = .ok (.map entries) ∧
        valueAt? "message" entries = some (.text "a\n\"b\"") ∧ valueAt? "module" entries = none ∧
        valueAt? "line" entries = some (.int 3)) ∧
      objectFormatter.formatAll [quoting, quoting] =
        objectFormatter.formatAll [{ quoting with module := none }, quoting] := by
  have hread : quoting.Readable := by
    intro l hl n hn
    cases hl
    simp only [Location.numbers, Location.point, List.mem_cons, List.not_mem_nil, or_false] at hn
    obtain rfl | rfl | rfl | rfl := hn <;> decide
  obtain ⟨hlines, hsame⟩ := objects_formatAll objectFormatter rfl rfl (List.cons_ne_nil quoting [quoting])
  refine ⟨rfl, rfl, List.cons_ne_nil _ _, ?_, (hsame _ (List.cons_ne_nil _ _)).mpr (by decide)⟩
  generalize lines (objectFormatter.formatAll [quoting, quoting]) = written at hlines ⊢
  cases hlines with
  | cons hfirst hrest =>
    obtain ⟨entries, htold, -, hentries⟩ := hfirst
    cases hrest with
    | cons hsecond hnone =>
      cases hnone
      exact ⟨_, _, entries, rfl, hentries hread, htold.message, htold.module, htold.line⟩

end Formatter

end Localize
