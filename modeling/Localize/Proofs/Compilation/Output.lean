/-
  The output of a build. For a source that is read as a well-placed tree, and sources that answer
  every key, a build in a new compilation succeeds, and its output is the text with the range
  of each folded call replaced by its literal, behind the mark of the source
  (`buildModule_output`). Such an output need not be a text that can be read (`output_unread`). The
  steps on the way: what a scan puts in place is what its call sites ask for (`mem_substitutions_iff`),
  it comes to its end (`yield_of_located`), and the calls that it skips have a location
  (`nestingErrors_of_located`).
-/
import Localize.Proofs.Compilation.Build
import Localize.Proofs.Fold.Census
import Localize.Proofs.Fold.Rendering
import Localize.Proofs.Table
import Mathlib.Data.List.Pairwise

namespace Localize

open Syntax

/-! ## Sources that answer -/

/-- A source that answers a key, without a value or with one that is written. -/
def Source.Answers (source : Source) (key : String) : Prop :=
  ∃ value?, source.resolve key = .ok value? ∧ ∀ value ∈ value?, Json.isWritten value = true

/-- A source over a table answers with its values, if they are written. -/
theorem Source.answers_ofTable {name : String} {entries : List (String × Value)}
    (h : ∀ e ∈ entries, Json.isWritten e.2 = true) (key : String) :
    (Source.ofTable name entries).Answers key := by
  refine ⟨_, rfl, ?_⟩
  intro value hvalue
  rcases hfound : valueAt? key entries with _ | found
  · rw [hfound] at hvalue
    cases hvalue
  · have hwritten := h _ (mem_of_valueAt? hfound)
    rw [hfound, Option.getD_some] at hvalue
    unfold Source.defined at hvalue
    split at hvalue
    · cases hvalue
    · cases hvalue
      exact hwritten

/-- Sources that answer a key. -/
def Config.Answers (config : Config) (key : String) : Prop :=
  (∀ source ∈ config.primary, source.Answers key) ∧ ∀ source ∈ config.fallback, source.Answers key

/-- Sources that answer every key. -/
def Config.Total (config : Config) : Prop := ∀ key, config.Answers key

theorem filling_of_answers {config : Config} {m : Miss} (h : config.Answers m.key) :
    ∃ r, filling config m = .ok r := by
  suffices hresolved : ∃ r, resolved config m = .ok r ∧ Json.isWritten r.value = true by
    obtain ⟨r, hr⟩ := hresolved
    exact ⟨r, filling_ok_iff.mpr hr⟩
  obtain ⟨hprimary, hfallback⟩ := h
  unfold resolved resolvedOther
  rcases hp : config.primary with _ | source
  · exact ⟨_, rfl, rfl⟩
  · obtain ⟨_ | value, hvalue, hwritten⟩ := hprimary source hp
    · dsimp only
      rw [hvalue]
      rcases hf : config.fallback with _ | other
      · exact ⟨_, rfl, rfl⟩
      · obtain ⟨_ | value, hother, hwritten⟩ := hfallback other hf
        · dsimp only
          rw [hother]
          exact ⟨_, rfl, rfl⟩
        · dsimp only
          rw [hother]
          exact ⟨_, rfl, hwritten value rfl⟩
    · dsimp only
      rw [hvalue]
      exact ⟨_, rfl, hwritten value rfl⟩

theorem resolved_of_answers {config : Config} {m : Miss} (h : config.Answers m.key) :
    ∃ r, resolved config m = .ok r := by
  obtain ⟨r, hr⟩ := filling_of_answers h
  exact ⟨r, (filling_ok_iff.mp hr).1⟩

/-! ## What a scan puts in place -/

/-- The substitution of a call site whose key is resolved. -/
def fill? (config : Config) (s : CallSite) : Option Substitution :=
  (resolved config s.miss).toOption.map fun r => Substitution.of r.value s r.outcome

theorem fill?_eq_some_iff {config : Config} {s : CallSite} {d : Substitution} :
    fill? config s = some d ↔
      ∃ r, resolved config s.miss = .ok r ∧ d = Substitution.of r.value s r.outcome := by
  unfold fill?
  rcases resolved config s.miss with f | r
  · exact ⟨nofun, nofun⟩
  · constructor
    · intro h
      cases h
      exact ⟨r, rfl, rfl⟩
    · rintro ⟨r', hr, rfl⟩
      cases hr
      rfl

theorem range_of_fill? {config : Config} {s : CallSite} {d : Substitution}
    (h : fill? config s = some d) : d.range = s.range ∧ d.kind = .constant := by
  obtain ⟨r, -, rfl⟩ := fill?_eq_some_iff.mp h
  exact ⟨rfl, rfl⟩

/-- Stops that can all be done: each is in its place, and there is something to fill it with. -/
def Feasible (config : Config) (ss : List Stop) : Prop :=
  (∀ e, Stop.misplaced e ∉ ss) ∧ ∀ s, Stop.site s ∈ ss → ∃ r, filling config s.miss = .ok r

theorem Feasible.resolved {config : Config} {ss : List Stop} (h : Feasible config ss) {s : CallSite}
    (hs : Stop.site s ∈ ss) : ∃ r, resolved config s.miss = .ok r := by
  obtain ⟨r, hr⟩ := h.2 s hs
  exact ⟨r, (filling_ok_iff.mp hr).1⟩

/-- A scan whose stops can all be done comes to its end, fills each call site, skips what its stops say
and writes the entries of all call sites. -/
theorem Yield.of_feasible {config : Config} {ss : List Stop} (h : Feasible config ss) :
    (Yield.of config ss).ending = .ok () ∧
      (Yield.of config ss).substitutions = (ss.filterMap Stop.site?).filterMap (fill? config) ∧
      (Yield.of config ss).skipped = ss.flatMap Stop.spans ∧
      (Yield.of config ss).entries =
        (ss.filterMap Stop.site?).flatMap fun s => entriesFor config s.miss := by
  induction ss with
  | nil => exact ⟨rfl, rfl, rfl, rfl⟩
  | cons s rest ih =>
    have hrest : Feasible config rest :=
      ⟨fun e he => h.1 e (List.mem_cons_of_mem _ he), fun t ht => h.2 t (List.mem_cons_of_mem _ ht)⟩
    obtain ⟨hending, hsubstitutions, hskipped, hentries⟩ := ih hrest
    cases s with
    | misplaced e => exact absurd List.mem_cons_self (h.1 e)
    | beyond spans => exact ⟨hending, hsubstitutions, congrArg (spans ++ ·) hskipped, hentries⟩
    | site s =>
      obtain ⟨r, hr⟩ := h.2 s List.mem_cons_self
      have hfill : fill? config s = some (Substitution.of r.value s r.outcome) :=
        fill?_eq_some_iff.mpr ⟨r, (filling_ok_iff.mp hr).1, rfl⟩
      unfold Yield.of
      rw [hr]
      refine ⟨hending, ?_, hskipped, congrArg (entriesFor config s.miss ++ ·) hentries⟩
      show _ :: (Yield.of config rest).substitutions =
        (s :: rest.filterMap Stop.site?).filterMap (fill? config)
      rw [List.filterMap_cons, hfill, hsubstitutions]

/-- All stops of a scan that came to its end could be done. -/
theorem feasible_of_ending {config : Config} {ss : List Stop}
    (h : (Yield.of config ss).ending = .ok ()) : Feasible config ss := by
  induction ss with
  | nil => exact ⟨nofun, nofun⟩
  | cons s rest ih =>
    cases s with
    | misplaced e => cases h
    | beyond spans => simpa [Feasible] using ih h
    | site s =>
      unfold Yield.of at h
      rcases hr : filling config s.miss with f | r
      · rw [hr] at h
        cases h
      · rw [hr] at h
        simpa [Feasible, hr] using ih h

section Located

variable {index : LineIndex} {tree : Node}

theorem feasible_stops {config : Config} (h : tree.Located index) (htotal : config.Total)
    (levels : Nat) : Feasible config (stops config.functionName index levels tree) :=
  ⟨not_misplaced config.functionName h levels, fun s _ => filling_of_answers (htotal s.miss.key)⟩

/-- What a scan of a tree comes to whose calls have their places, with sources that answer every key. -/
theorem yield_of_located (config : Config) (h : tree.Located index) (htotal : config.Total)
    (levels : Nat) :
    (Yield.of config (stops config.functionName index levels tree)).ending = .ok () ∧
      (Yield.of config (stops config.functionName index levels tree)).substitutions =
        (sites config.functionName index levels tree).filterMap (fill? config) ∧
      (Yield.of config (stops config.functionName index levels tree)).skipped =
        (stops config.functionName index levels tree).flatMap Stop.spans := by
  obtain ⟨hending, hsubstitutions, hskipped, -⟩ := Yield.of_feasible (feasible_stops h htotal levels)
  exact ⟨hending, hsubstitutions, hskipped⟩

/-- Where all calls have their places, there is one build error for all skipped ones, if there are any. -/
theorem nestingErrors_of_located (h : tree.Located index) (id : String) (limit : Int)
    {skipped : List Span} (hskipped : ∀ span ∈ skipped, ∃ path, tree.HasCall path span) :
    ∃ errors, nestingErrors id index limit skipped = .ok errors ∧ (skipped = [] → errors = []) ∧
      (skipped ≠ [] → ∃ location, errors = [.nesting id limit skipped.length location]) := by
  rcases skipped with _ | ⟨first, rest⟩
  · exact ⟨[], rfl, fun _ => rfl, fun hne => absurd rfl hne⟩
  · obtain ⟨path, hpath⟩ := hskipped first List.mem_cons_self
    obtain ⟨-, location, hlocation⟩ := h path first hpath
    refine ⟨[.nesting id limit (first :: rest).length location], ?_, nofun, fun _ => ⟨location, rfl⟩⟩
    unfold nestingErrors
    dsimp only
    rw [hlocation]
    rfl

end Located

section WellPlaced

variable {index : LineIndex} {tree : Node}

/-! ## Ranges -/

theorem mem_substitutions_iff (config : Config) (h : tree.WellPlaced index.lines) (levels : Nat)
    (d : Substitution) :
    d ∈ (sites config.functionName index levels tree).filterMap (fill? config) ↔
      ∃ path s r, tree.FoldedAt config.functionName index levels path s ∧
        resolved config s.miss = .ok r ∧ d = Substitution.of r.value s r.outcome := by
  rw [List.mem_filterMap]
  constructor
  · rintro ⟨s, hs, hd⟩
    obtain ⟨path, hfolded⟩ := (mem_sites_iff h levels s).mp hs
    obtain ⟨r, hr, hd⟩ := fill?_eq_some_iff.mp hd
    exact ⟨path, s, r, hfolded, hr, hd⟩
  · rintro ⟨path, s, r, hfolded, hr, hd⟩
    exact ⟨s, (mem_sites_iff h levels s).mpr ⟨path, hfolded⟩, fill?_eq_some_iff.mpr ⟨r, hr, hd⟩⟩

/-- What is put in place of call sites fits the text. -/
theorem fits_of_mem (config : Config) (h : tree.WellPlaced index.lines) (levels : Nat)
    {d : Substitution}
    (hd : d ∈ (sites config.functionName index levels tree).filterMap (fill? config)) :
    d.Fits index.text.length := by
  obtain ⟨s, hs, hfill⟩ := List.mem_filterMap.mp hd
  obtain ⟨path, hfolded⟩ := (mem_sites_iff h levels s).mp hs
  obtain ⟨hrange, hkind⟩ := range_of_fill? hfill
  obtain ⟨hlt, hle⟩ := siteAt_range h hfolded.site
  refine ⟨hkind, ?_, ?_⟩
  · rw [hrange]
    exact hlt
  · rw [hrange]
    exact hle

theorem pairwise_filled (config : Config) (h : tree.WellPlaced index.lines) (levels : Nat) :
    ((sites config.functionName index levels tree).filterMap (fill? config)).Pairwise
      Substitution.Apart := by
  rw [List.pairwise_filterMap]
  refine (pairwise_sites h levels).imp ?_
  intro s t hst d hd e he
  unfold Substitution.Apart
  rw [(range_of_fill? hd).1, (range_of_fill? he).1]
  exact hst

end WellPlaced

/-! ## The module of a source -/

theorem wellPlaced_indexOf {text : List Char} {tree : Node} (h : tree.WellPlaced (splitLines text)) :
    tree.WellPlaced (indexOf text).lines := h

theorem markOf_append_textOf (source : String) : markOf source ++ textOf source = source.toList := by
  unfold markOf textOf
  rcases source.toList with _ | ⟨c, rest⟩
  · rfl
  · rw [splitMark]
    split <;> rfl

theorem markOf_eq (source : String) : markOf source = [] ∨ markOf source = [byteOrderMark] := by
  unfold markOf
  rcases source.toList with _ | ⟨c, rest⟩
  · exact .inl rfl
  · rw [splitMark]
    split
    · rename_i h
      exact .inr (by rw [h])
    · exact .inl rfl

theorem eq_of_mem_markOf {source : String} {c : Char} (h : c ∈ markOf source) : c = byteOrderMark := by
  rcases markOf_eq source with hmark | hmark
  · rw [hmark] at h
    cases h
  · rw [hmark] at h
    exact List.mem_singleton.mp h

theorem splitMark_of_unmarked {text : List Char} (h : text.head? ≠ some byteOrderMark) :
    splitMark text = ([], text) := by
  rcases text with _ | ⟨c, rest⟩
  · rfl
  · have hne : c ≠ byteOrderMark := by simpa using h
    rw [splitMark, if_neg hne]

theorem textOf_ofList {text : List Char} (h : text.head? ≠ some byteOrderMark) :
    textOf (String.ofList text) = text := by
  unfold textOf
  rw [String.toList_ofList, splitMark_of_unmarked h]

/-- A text without a mark and without null characters is read as it stands. -/
theorem treeOf?_ofList {text : List Char} (hmark : text.head? ≠ some byteOrderMark)
    (hnull : '\x00' ∉ text) : treeOf? (String.ofList text) = (parseModule text).toOption := by
  unfold treeOf?
  rw [textOf_ofList hmark, if_neg (by rwa [List.contains_iff_mem])]

/-- The module of a scan that fills well-placed call sites has the text with their ranges replaced. -/
theorem moduleOf_of_fits (id source : String) (mark : List Char) {index : LineIndex} {scan : Scan}
    {errors : List BuildError}
    (hnesting : nestingErrors id index scan.guard.limit scan.skipped.reverse = .ok errors)
    (hfits : ∀ d ∈ scan.substitutions.reverse, d.Fits index.text.length)
    (hapart : scan.substitutions.reverse.Pairwise Substitution.Apart) :
    ∃ m, moduleOf id source mark index.text index scan = .ok m ∧
      m.output = String.ofList (mark ++ Substitution.replaced index.text m.dependencies) ∧
      m.dependencies = scan.substitutions.reverse := by
  have hrender := Substitution.render_of_fits hfits hapart
  unfold moduleOf
  dsimp only
  rw [hnesting, hrender]
  exact ⟨_, rfl, rfl, rfl⟩

/-- The module of a well-placed tree whose stops can all be done. -/
theorem body_of_feasible (config : Config) {index : LineIndex} {tree : Node}
    (h : tree.WellPlaced index.lines)
    (hfeasible : Feasible config (stops config.functionName index Guard.traversal.levels tree))
    (id source : String) (mark : List Char) :
    ∃ m, (Yield.of config (stops config.functionName index Guard.traversal.levels tree)).body id
        source mark index.text index = .ok m ∧
      m.output = String.ofList (mark ++ Substitution.replaced index.text m.dependencies) ∧
      m.dependencies =
        (sites config.functionName index Guard.traversal.levels tree).filterMap (fill? config) := by
  obtain ⟨hending, hfilled, hskipped, -⟩ := Yield.of_feasible hfeasible
  generalize Yield.of config (stops config.functionName index Guard.traversal.levels tree) = y at *
  have hspans : ∀ span ∈ y.skipped, ∃ path, tree.HasCall path span := by
    rw [hskipped]
    exact fun span hspan =>
      hasCall_of_mem_spans h.located config.functionName Guard.traversal.levels hspan
  obtain ⟨errors, hnesting, -⟩ := nestingErrors_of_located h.located id Guard.traversal.limit hspans
  rw [← y.skipped_start { module := id } []] at hnesting
  have hdependencies := (y.substitutions_start { module := id } []).trans hfilled
  obtain ⟨m, hm, houtput, hm'⟩ := moduleOf_of_fits id source mark hnesting
    (by rw [hdependencies]; exact fun d => fits_of_mem config h _)
    (by rw [hdependencies]; exact pairwise_filled config h _)
  refine ⟨m, ?_, houtput, hm'.trans hdependencies⟩
  unfold Yield.body
  rw [hending]
  exact hm

/-- The module of a well-placed tree, with sources that answer every key. -/
theorem body_of_wellPlaced (config : Config) {index : LineIndex} {tree : Node}
    (h : tree.WellPlaced index.lines) (htotal : config.Total) (id source : String)
    (mark : List Char) :
    ∃ m, (Yield.of config (stops config.functionName index Guard.traversal.levels tree)).body id
        source mark index.text index = .ok m ∧
      m.output = String.ofList (mark ++ Substitution.replaced index.text m.dependencies) ∧
      m.dependencies =
        (sites config.functionName index Guard.traversal.levels tree).filterMap (fill? config) :=
  body_of_feasible config h (feasible_stops h.located htotal _) id source mark

/-- The module of a source that is read as a well-placed tree, with sources that answer every key. -/
theorem bodyOf_output (config : Config) (files : List (String × Text.Bytes)) (id : String)
    {source : String} {tree : Node} (hread : treeOf? source = some tree)
    (hplaced : tree.WellPlaced (indexOf (textOf source)).lines) (htotal : config.Total) :
    ∃ m, bodyOf config files id source = .ok m ∧
      m.output =
        String.ofList (markOf source ++ Substitution.replaced (textOf source) m.dependencies) ∧
      m.dependencies =
        (sites config.functionName (indexOf (textOf source)) Guard.traversal.levels tree).filterMap
          (fill? config) := by
  rw [bodyOf_of_tree config files id hread]
  exact body_of_wellPlaced config hplaced htotal id source (markOf source)

/-- A build of a source that is read as a well-placed tree, with sources that answer every key,
succeeds. Its output is the text in which the range of each folded call is replaced by the literal
of what its key is resolved to, behind the mark of the source; these ranges hold something, lie
in the text and lie apart. -/
theorem buildModule_output (config : Config) (files : List (String × Text.Bytes)) (id : String)
    {source : String} {tree : Node} (hread : treeOf? source = some tree)
    (hplaced : tree.WellPlaced (splitLines (textOf source))) (htotal : config.Total) :
    ∃ m, ((Compilation.fresh config files).buildModule id source).2 = .ok m ∧
      m.output =
        String.ofList (markOf source ++ Substitution.replaced (textOf source) m.dependencies) ∧
      (∀ d ∈ m.dependencies, d.Fits (textOf source).length) ∧
      m.dependencies.Pairwise Substitution.Apart ∧
      ∀ d, d ∈ m.dependencies ↔
        ∃ path s r, tree.FoldedAt config.functionName (indexOf (textOf source))
            Guard.traversal.levels path s ∧
          resolved config s.miss = .ok r ∧ d = Substitution.of r.value s r.outcome := by
  have hplaced' : tree.WellPlaced (indexOf (textOf source)).lines := hplaced
  obtain ⟨m, hbody, houtput, hdependencies⟩ := bodyOf_output config files id hread hplaced' htotal
  refine ⟨m.withRecords (Compilation.written config source { module := id }), ?_, houtput, ?_, ?_, ?_⟩
  · rw [Compilation.buildModule_fresh, hbody]
    rfl
  · intro d hd
    exact fits_of_mem config hplaced' _ (hdependencies ▸ hd)
  · show m.dependencies.Pairwise _
    rw [hdependencies]
    exact pairwise_filled config hplaced' _
  · intro d
    show d ∈ m.dependencies ↔ _
    rw [hdependencies]
    exact mem_substitutions_iff config hplaced' _ d

/-- A source with a mark, a call behind a character of two bytes, and calls inside of another call
that goes on in the next line. -/
def sample : String := "\ufeffs = 'é' + __('Hé', 'k')\nprint(__('a'), __(\n  'b'))\n"

/-- Sources that have one of the keys of the sample. -/
def sampleConfig : Config := { primary := some (.ofTable "table" [("k", .text "Grüß")]) }

theorem sampleConfig_total : sampleConfig.Total := by
  intro key
  constructor
  · intro source hsource
    cases hsource
    exact Source.answers_ofTable (by decide) key
  · intro source hsource
    cases hsource

theorem treeOf?_sample :
    ∃ tree, treeOf? sample = some tree ∧ tree.WellPlaced (splitLines (textOf sample)) := by
  have hcalls : (treeOf? sample).map (fun tree => (tree.exceeds 8, tree.callsTo 8)) =
      some (false, [([0, 1, 1], ⟨⟨1, 11⟩, ⟨1, 25⟩⟩), ([1, 0], ⟨⟨2, 0⟩, ⟨3, 7⟩⟩),
        ([1, 0, 1], ⟨⟨2, 6⟩, ⟨2, 13⟩⟩), ([1, 0, 2], ⟨⟨2, 15⟩, ⟨3, 6⟩⟩)]) := by decide +kernel
  exact Node.exists_wellPlaced hcalls (by decide +kernel) (by decide +kernel)

/-- The sample is built. -/
theorem buildModule_output_sample :
    ∃ tree m, treeOf? sample = some tree ∧ tree.WellPlaced (splitLines (textOf sample)) ∧
      sampleConfig.Total ∧
      ((Compilation.fresh sampleConfig []).buildModule "a.py" sample).2 = .ok m ∧
      m.output =
        String.ofList (markOf sample ++ Substitution.replaced (textOf sample) m.dependencies) := by
  obtain ⟨tree, hread, hplaced⟩ := treeOf?_sample
  obtain ⟨m, hm, houtput, -⟩ :=
    buildModule_output sampleConfig [] "a.py" hread hplaced sampleConfig_total
  exact ⟨tree, m, hread, hplaced, sampleConfig_total, hm, houtput⟩

/-- A source that has one key. -/
def oneKey : Config := { primary := some (.ofTable "table" [("a", .text "A")]) }

/-- A text that can be read, with a call in a field of a formatted string. -/
def fieldSource : String := "x = f\"\x7b__('a')\x7d\"\n"

/-- The output of its build cannot be read: the literal stands between double quotes, and the first of them
ends the formatted string. -/
theorem output_unread :
    (treeOf? fieldSource).isSome = true ∧
      ((Compilation.fresh oneKey []).buildModule "a.py" fieldSource).2.toOption.map
          (fun m => (m.output, (treeOf? m.output).isSome)) =
        some ("x = f\"\x7b\"A\"\x7d\"\n", false) := by
  decide +kernel

end Localize
