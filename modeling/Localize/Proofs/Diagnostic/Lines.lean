/-
  How diagnostics stand in lines. A text has one line more than it has line feeds, and texts without them
  that are joined by line feeds are its lines (`lines_intercalate`). In the style of one line each, only the
  module and the message of a diagnostic bring line feeds of their own (`lineFeeds_format`). So the text of
  several diagnostics has one line for each just if these have none, and the text of what a build reports
  just if the name of the module, the keys and the default texts have none
  (`lineFeeds_formatAll`): a key with a line feed in it takes two lines (`lineFeeds_broken`).
-/
import Localize.Diagnostic.Format
import Localize.Proofs.Compilation.Settled
import Localize.Proofs.File.Path
import Localize.Proofs.Json.Flat

namespace Localize

/-! ## Lines of a text -/

namespace Text

/-- How many line feeds a text has. -/
def lineFeeds (text : String) : Nat := text.toList.count '\n'

/-- The lines of a text, which its line feeds divide. -/
def lines (text : String) : List String := (splitAt (· = '\n') text.toList).map String.ofList

theorem lineFeeds_eq_zero_iff {text : String} : lineFeeds text = 0 ↔ '\n' ∉ text.toList :=
  List.count_eq_zero

@[simp] theorem lineFeeds_empty : lineFeeds "" = 0 := rfl

@[simp] theorem lineFeeds_append (a b : String) : lineFeeds (a ++ b) = lineFeeds a + lineFeeds b := by
  rw [lineFeeds, String.toList_append, List.count_append]
  rfl

/-- A text in which every character is visible has no line feed. -/
theorem lineFeeds_of_visible {text : String} (h : ∀ c ∈ text.toList, 32 ≤ c.toNat) :
    lineFeeds text = 0 :=
  lineFeeds_eq_zero_iff.mpr fun hmem => absurd (h _ hmem) (by decide)

theorem length_lines (text : String) : (lines text).length = lineFeeds text + 1 := by
  rw [lines, List.length_map, length_splitAt, lineFeeds, List.count]
  rfl

/-- Texts that are joined by line feeds have their own and one between each two of them. -/
theorem lineFeeds_intercalate {parts : List String} (hne : parts ≠ []) :
    lineFeeds ("\n".intercalate parts) = parts.length - 1 + (parts.map lineFeeds).sum := by
  induction parts with
  | nil => exact absurd rfl hne
  | cons part rest ih =>
    rcases rest with _ | ⟨next, rest⟩
    · simp
    · have hfeed : lineFeeds "\n" = 1 := by decide
      rw [String.intercalate_cons_cons, lineFeeds_append, lineFeeds_append, hfeed,
        ih (List.cons_ne_nil _ _)]
      simp only [List.map_cons, List.sum_cons, List.length_cons]
      omega

theorem lines_intercalate {parts : List String} (hne : parts ≠ [])
    (h : ∀ part ∈ parts, lineFeeds part = 0) : lines ("\n".intercalate parts) = parts :=
  splitAt_intercalate rfl hne fun part hpart => lineFeeds_eq_zero_iff.mp (h part hpart)

@[simp] theorem lineFeeds_int (n : Int) : lineFeeds n.repr = 0 :=
  lineFeeds_of_visible (by simpa [Json.write] using Json.visible_int n)

end Text

open Text (lineFeeds lines)

/-! ## One diagnostic in one line -/

@[simp] theorem lineFeeds_location (l : Location) : lineFeeds l.text = 0 := by
  have htext : l.text = toString l.line ++ ":" ++ toString l.column := rfl
  have hcolon : lineFeeds ":" = 0 := by decide
  simp [htext, hcolon]

@[simp] theorem lineFeeds_code (c : Code) : lineFeeds c.text = 0 := by cases c <;> decide

theorem lineFeeds_nestingMessage (id : String) (limit : Int) (count : Nat) (location : Location) :
    lineFeeds (BuildError.nesting id limit count location).diagnostic.message = 0 := by
  have htext : (BuildError.nesting id limit count location).diagnostic.message =
      toString (count : Int) ++ " call(s) nested deeper than the " ++ toString limit ++
        "-level traversal limit were not folded" := rfl
  have hmiddle : lineFeeds " call(s) nested deeper than the " = 0 := by decide
  have hend : lineFeeds "-level traversal limit were not folded" = 0 := by decide
  simp [htext, hmiddle, hend]

/-- A miss is told with its key, and with its text where that is another one. -/
theorem lineFeeds_missMessage (x : Miss) :
    lineFeeds x.message = 0 ↔ lineFeeds x.key = 0 ∧ lineFeeds x.text = 0 := by
  have hplain : lineFeeds "Missing localization: " = 0 := by decide
  have hopen : lineFeeds "Missing localization: (" = 0 := by decide
  have hclose : lineFeeds ") " = 0 := by decide
  unfold Miss.message
  split
  · rename_i hsame
    simp [hplain, ← hsame]
  · simp [hopen, hclose]

namespace Formatter

theorem lineFeeds_cut_le (f : Formatter) (text : String) : lineFeeds (f.cut text) ≤ lineFeeds text := by
  unfold cut
  dsimp only
  split
  · exact Nat.le_refl _
  · generalize (if f.maxLength < 0 then (text.toList.length + f.maxLength).toNat
      else f.maxLength.toNat) = kept
    have hdots : lineFeeds "..." = 0 := by decide
    rw [Text.lineFeeds_append, hdots, Nat.add_zero, lineFeeds, String.toList_ofList]
    exact (List.take_sublist kept text.toList).count_le '\n'

theorem cut_of_unlimited {f : Formatter} (h : f.maxLength = 0) (text : String) : f.cut text = text := by
  simp [cut, h]

theorem getD_nonempty (text : Option String) : (nonempty text).getD "" = text.getD "" := by
  rcases text with _ | t
  · rfl
  · by_cases ht : t = ""
    · rw [ht]
      rfl
    · rw [nonempty, Option.filter_some, if_pos (decide_eq_true ht)]

/-- The place of a diagnostic has the line feeds of its module. -/
theorem lineFeeds_place (d : Diagnostic) :
    lineFeeds ((place d).getD "") = lineFeeds (d.module.getD "") := by
  have hcolon : lineFeeds ":" = 0 := by decide
  rw [← getD_nonempty d.module]
  unfold place
  rcases hm : nonempty d.module with _ | m <;> rcases hl : d.location with _ | l
  · rfl
  · have hline : lineFeeds (toString "line ") = 0 := by decide
    have hcolumn : lineFeeds (toString ", column ") = 0 := by decide
    simp [hline, hcolumn]
  · rfl
  · simp [hcolon]

theorem lineFeeds_format {f : Formatter} (h : f.style = .simple) (d : Diagnostic) :
    lineFeeds (f.format d) = lineFeeds (d.module.getD "") + lineFeeds (f.cut d.message) := by
  have hcolon : lineFeeds ": " = 0 := by decide
  rw [← lineFeeds_place]
  unfold format
  rw [h]
  dsimp only
  rcases place d with _ | p
  · simp [hcolon]
  · simp [hcolon]

/-- A diagnostic that brings no line feed to the text in the style of one line each. -/
def InLine (f : Formatter) (d : Diagnostic) : Prop :=
  lineFeeds (d.module.getD "") = 0 ∧ lineFeeds (f.cut d.message) = 0

theorem inLine_iff {f : Formatter} (h : f.style = .simple) {d : Diagnostic} :
    f.InLine d ↔ lineFeeds (f.format d) = 0 := by
  rw [lineFeeds_format h, Nat.add_eq_zero_iff, InLine]

/-! ## Several diagnostics -/

theorem lineFeeds_formatAll_eq {f : Formatter} (h : f.style.separator = "\n") {ds : List Diagnostic}
    (hne : ds ≠ []) :
    lineFeeds (f.formatAll ds) = ds.length - 1 + (ds.map fun d => lineFeeds (f.format d)).sum := by
  rw [formatAll, h, Text.lineFeeds_intercalate (by simpa using hne), List.length_map, List.map_map]
  rfl

/-- Diagnostics without line feeds in their texts are the lines of the text of all. -/
theorem lines_formatAll {f : Formatter} (h : f.style.separator = "\n") {ds : List Diagnostic}
    (hne : ds ≠ []) (hline : ∀ d ∈ ds, lineFeeds (f.format d) = 0) :
    lines (f.formatAll ds) = ds.map f.format := by
  rw [formatAll, h]
  exact Text.lines_intercalate (by simpa using hne) (List.forall_mem_map.mpr hline)

/-- There is one line for each diagnostic just if none brings a line feed. -/
theorem lineFeeds_formatAll_eq_iff {f : Formatter} (h : f.style = .simple) {ds : List Diagnostic}
    (hne : ds ≠ []) :
    lineFeeds (f.formatAll ds) = ds.length - 1 ↔ ∀ d ∈ ds, f.InLine d := by
  have hsum : (ds.map fun d => lineFeeds (f.format d)).sum = 0 ↔ ∀ d ∈ ds, f.InLine d := by
    rw [List.sum_eq_zero_iff_forall_eq_nat, List.forall_mem_map]
    exact forall₂_congr fun d _ => (inLine_iff h).symm
  rw [lineFeeds_formatAll_eq (by rw [h]; rfl) hne, ← hsum]
  omega

end Formatter

/-! ## What a build reports -/

namespace Module

variable {m : Module}

/-- The diagnostics of a module are those of its build errors and of the misses in its records. -/
theorem mem_diagnostics_iff {d : Diagnostic} :
    d ∈ m.diagnostics ↔ (∃ e ∈ m.buildErrors, e.diagnostic = d) ∨
      ∃ severity r, m.record? severity = some r ∧ ∃ x ∈ r.misses, r.diagnostic x = d := by
  have hrecords : ∀ r, r ∈ m.records ↔ ∃ severity, m.record? severity = some r := by
    intro r
    rw [records, List.mem_append, Option.mem_toList, Option.mem_toList]
    constructor
    · rintro (hr | hr)
      · exact ⟨.warning, hr⟩
      · exact ⟨.error, hr⟩
    · rintro ⟨_ | _, hr⟩
      · exact .inl hr
      · exact .inr hr
  simp only [diagnostics, List.mem_append, List.mem_map, List.mem_flatMap, hrecords,
    Record.diagnostics]
  refine or_congr Iff.rfl ⟨?_, ?_⟩
  · rintro ⟨r, ⟨severity, hr⟩, hx⟩
    exact ⟨severity, r, hr, hx⟩
  · rintro ⟨severity, r, hr, hx⟩
    exact ⟨r, ⟨severity, hr⟩, hx⟩

theorem mem_misses_iff {severity : Severity} {x : Miss} :
    x ∈ m.misses severity ↔ ∃ r, m.record? severity = some r ∧ x ∈ r.misses := by
  unfold misses
  rcases m.record? severity with _ | r
  · simp
  · simp

end Module

namespace Compilation

/-- A call for one module returns what is built. -/
theorem Call.run_one {c : Compilation} {id source : String} {m : Module}
    (h : (c.buildModule id source).2 = .ok m) : ((Call.one id source).run c).2 = .ok [m] := by
  rcases hbuild : c.buildModule id source with ⟨c', result⟩
  rw [hbuild] at h
  cases h
  simp only [Call.run, hbuild]

namespace Built

variable {c : Compilation} {job : String × String} {m : Module}

/-- The records of a module that is built are its own. -/
theorem own (h : Built c job m) (hsound : c.aggregator.Sound) {severity : Severity} {r : Record}
    (hr : m.record? severity = some r) : r.module = job.1 := by
  obtain ⟨w, hw, -, hwarnings, herrors⟩ := h.seals
  have hget : w.get? severity = some r := by
    cases severity with
    | warning => exact hwarnings.trans hr
    | error => exact herrors.trans hr
  obtain ⟨n, hn, rfl⟩ := Option.map_eq_some_iff.mp hw
  have hmem := Aggregator.mem_of_current? hn
  have hmodule : (c.aggregator.window n).module = m.id := hsound.own _ hmem
  rw [(hsound.proper _ hmem severity r hget).1, hmodule, h.id]

/-- What is reported with a module that is built is about it; nesting is told in one line. -/
theorem buildError (h : Built c job m) (f : Formatter) {e : BuildError} (he : e ∈ m.buildErrors) :
    e.diagnostic.module = some job.1 ∧
      (treeOf? job.2 ≠ none → lineFeeds (f.cut e.diagnostic.message) = 0) := by
  obtain ⟨body, w, hbody, rfl⟩ := h.body
  obtain ⟨reason, location, hunread, rfl⟩ | ⟨limit, count, location, rfl⟩ :=
    eq_of_mem_buildErrors hbody he
  · exact ⟨rfl, fun hread => absurd hunread hread⟩
  · have hplain := lineFeeds_nestingMessage job.1 limit count location
    exact ⟨rfl, fun _ => Nat.le_zero.mp ((f.lineFeeds_cut_le _).trans_eq hplain)⟩

/-- The diagnostics of a module that is built bring line feeds with its name, with the reason for which it is
not read, and with the misses. -/
theorem inLine_iff (h : Built c job m) (hsound : c.aggregator.Sound) (f : Formatter)
    (hne : m.diagnostics ≠ []) :
    (∀ d ∈ m.diagnostics, f.InLine d) ↔
      lineFeeds job.1 = 0 ∧
      (treeOf? job.2 = none → ∀ e ∈ m.buildErrors, lineFeeds (f.cut e.diagnostic.message) = 0) ∧
      ∀ severity, ∀ x ∈ m.misses severity, lineFeeds (f.cut x.message) = 0 := by
  have hmodule : ∀ d ∈ m.diagnostics, d.module = some job.1 := by
    intro d hd
    obtain ⟨e, he, rfl⟩ | ⟨severity, r, hr, x, -, rfl⟩ := Module.mem_diagnostics_iff.mp hd
    · exact (h.buildError f he).1
    · exact congrArg some (h.own hsound hr)
  constructor
  · intro hline
    refine ⟨?_, fun _ e he => ?_, fun severity x hx => ?_⟩
    · obtain ⟨d, hd⟩ := List.exists_mem_of_ne_nil _ hne
      simpa [hmodule d hd] using (hline d hd).1
    · exact (hline _ (Module.mem_diagnostics_iff.mpr (.inl ⟨e, he, rfl⟩))).2
    · obtain ⟨r, hr, hx⟩ := Module.mem_misses_iff.mp hx
      exact (hline _ (Module.mem_diagnostics_iff.mpr (.inr ⟨severity, r, hr, x, hx, rfl⟩))).2
  · rintro ⟨hid, herrors, hmisses⟩ d hd
    refine ⟨by rw [hmodule d hd]; exact hid, ?_⟩
    obtain ⟨e, he, rfl⟩ | ⟨severity, r, hr, x, hx, rfl⟩ := Module.mem_diagnostics_iff.mp hd
    · by_cases hread : treeOf? job.2 = none
      · exact herrors hread e he
      · exact (h.buildError f he).2 hread
    · exact hmisses severity x (Module.mem_misses_iff.mpr ⟨r, hr, hx⟩)

end Built

end Compilation

/-! ## Lines of a report -/

/-- In the style of one line each, the text of some diagnostics has a line feed between each two of them and
those of their modules and messages, as far as these are shown. So it has one line for each diagnostic, which
is the text of it, just if the modules and messages have none. After any calls, what is reported of a module
that is built has one line for each diagnostic just if there is no line feed in its name, in the reason for
which it is not read, and in the misses, which is to say in their keys and default texts where messages are
shown in full. -/
theorem Formatter.lineFeeds_formatAll (f : Formatter) (hstyle : f.style = .simple) :
    (∀ ds : List Diagnostic, ds ≠ [] →
      lineFeeds (f.formatAll ds) = ds.length - 1 +
        (ds.map fun d => lineFeeds (d.module.getD "") + lineFeeds (f.cut d.message)).sum ∧
      (lineFeeds (f.formatAll ds) = ds.length - 1 ↔ ∀ d ∈ ds, f.InLine d) ∧
      ((∀ d ∈ ds, f.InLine d) → lines (f.formatAll ds) = ds.map f.format)) ∧
    (∀ (config : Config) (files : List (String × Text.Bytes)) (calls : List Compilation.Call)
      (call : Compilation.Call) (ms : List Module),
      (∀ call' ∈ call :: calls, (call'.sources.map Prod.fst).Nodup) →
      (call.run ((Compilation.fresh config files).after calls)).2 = .ok ms →
      List.Forall₂ (fun job m => m.diagnostics ≠ [] →
        (lineFeeds (f.formatAll m.diagnostics) = m.diagnostics.length - 1 ↔
          lineFeeds job.1 = 0 ∧
          (treeOf? job.2 = none → ∀ e ∈ m.buildErrors, lineFeeds (f.cut e.diagnostic.message) = 0) ∧
          ∀ severity, ∀ x ∈ m.misses severity, lineFeeds (f.cut x.message) = 0)) call.sources ms) ∧
    (f.maxLength = 0 → ∀ x : Miss,
      lineFeeds (f.cut x.message) = 0 ↔ lineFeeds x.key = 0 ∧ lineFeeds x.text = 0) := by
  have hseparator : f.style.separator = "\n" := by rw [hstyle]; rfl
  refine ⟨fun ds hne => ⟨?_, lineFeeds_formatAll_eq_iff hstyle hne, fun hline => ?_⟩, ?_, ?_⟩
  · rw [lineFeeds_formatAll_eq hseparator hne]
    simp only [lineFeeds_format hstyle]
  · exact lines_formatAll hseparator hne fun d hd => (inLine_iff hstyle).mp (hline d hd)
  · intro config files calls call ms hids hms
    obtain ⟨hcall, hcalls⟩ := List.forall_mem_cons.mp hids
    have htidy := Compilation.after_tidy (c := Compilation.fresh config files) Aggregator.tidy_empty hcalls
    have hdone := (Compilation.run_done htidy hcall).1
    refine (hdone.built ms hms).imp fun job m hbuilt hne => ?_
    rw [lineFeeds_formatAll_eq_iff hstyle hne]
    exact hbuilt.inLine_iff hdone.keeps.tidy.sound f hne
  · intro hlimit x
    rw [cut_of_unlimited hlimit]
    exact lineFeeds_missMessage x

/-- A formatter that writes a line each. -/
def lineFormatter : Formatter := { style := .simple }

/-- A source that asks for a plain key and for one with a line feed in it. -/
def broken : String := "p(__('a'), __('b\\nc'))\n"

/-- A configuration whose source has no keys. -/
def keyless : Config := { primary := some (.ofTable "table" []) }

theorem build_broken :
    ∃ m, ((Compilation.fresh keyless []).buildModule "a.py" broken).2 = .ok m ∧
      (m.misses .warning).map Miss.key = ["a", "b\nc"] ∧ m.diagnostics.length = 2 ∧
      lineFeeds (lineFormatter.formatAll m.diagnostics) = 2 := by
  have hreport : (((Compilation.fresh keyless []).buildModule "a.py" broken).2.toOption.map fun m =>
      ((m.misses .warning).map Miss.key, m.diagnostics.length,
        lineFeeds (lineFormatter.formatAll m.diagnostics))) = some (["a", "b\nc"], 2, 2) := by
    decide +kernel
  obtain ⟨m, hm, hcounts⟩ := Option.map_eq_some_iff.mp hreport
  rcases hbuild : ((Compilation.fresh keyless []).buildModule "a.py" broken).2 with f | built
  · rw [hbuild] at hm
    cases hm
  · rw [hbuild] at hm
    cases hm
    simpa using hcounts

/-- The report of this build is not one line for each diagnostic, as a key that is missed has two lines. -/
theorem Formatter.lineFeeds_formatAll_keyless :
    lineFormatter.style = .simple ∧
      (∀ call ∈ [Compilation.Call.one "a.py" broken], (call.sources.map Prod.fst).Nodup) ∧
      ∃ m, ((Compilation.Call.one "a.py" broken).run ((Compilation.fresh keyless []).after [])).2 = .ok [m] ∧
        (m.misses .warning).map Miss.key = ["a", "b\nc"] ∧ m.diagnostics ≠ [] ∧
        lineFeeds (lineFormatter.formatAll m.diagnostics) ≠ m.diagnostics.length - 1 := by
  have hids : ∀ call ∈ [Compilation.Call.one "a.py" broken], (call.sources.map Prod.fst).Nodup :=
    List.forall_mem_singleton.mpr (List.nodup_singleton _)
  obtain ⟨m, hbuild, hkeys, hlength, -⟩ := build_broken
  have hrun : ((Compilation.Call.one "a.py" broken).run ((Compilation.fresh keyless []).after [])).2 =
      .ok [m] := by
    have hstart : (Compilation.fresh keyless []).after [] = Compilation.fresh keyless [] := rfl
    rw [hstart]
    exact Compilation.Call.run_one hbuild
  have hne : m.diagnostics ≠ [] := List.ne_nil_of_length_eq_add_one hlength
  obtain ⟨-, hbuilds, hmisses⟩ := Formatter.lineFeeds_formatAll lineFormatter rfl
  obtain ⟨x, hx, hkey⟩ : ∃ x ∈ m.misses .warning, x.key = "b\nc" :=
    List.mem_map.mp (by rw [hkeys]; decide)
  refine ⟨rfl, hids, m, hrun, hkeys, hne, fun hone => ?_⟩
  cases hbuilds keyless [] [] _ _ hids hrun with
  | cons hreport _ =>
    obtain ⟨-, -, hplain⟩ := (hreport hne).mp hone
    have hbreak := ((hmisses rfl x).mp (hplain .warning x hx)).1
    rw [hkey] at hbreak
    exact absurd hbreak (by decide)

/-- A report of two diagnostics that takes three lines. -/
theorem lineFeeds_broken :
    ∃ m, ((Compilation.fresh keyless []).buildModule "a.py" broken).2 = .ok m ∧
      m.diagnostics.length = 2 ∧ lineFeeds (lineFormatter.formatAll m.diagnostics) = 2 ∧
      (lines (lineFormatter.formatAll m.diagnostics)).length = 3 := by
  obtain ⟨m, hbuild, -, hlength, hfeeds⟩ := build_broken
  exact ⟨m, hbuild, hlength, hfeeds, by rw [Text.length_lines, hfeeds]⟩

end Localize
