/-
  Calls whose sources answer every key, with values that are written. A source without a null
  character is always built: if it cannot be read its module is the source itself with one build
  error, and else the source is folded (`Settled`). A null character is the only reason why a call
  fails. Nothing is stored then, and the windows of the sources with one stay open, while a call
  that returns has sealed all windows (`run_settles`). So one source with a null character keeps the
  others from being built (`buildModule_null`).
-/
import Localize.Proofs.Compilation.Windows

namespace Localize

open Syntax

/-! ## One source -/

/-- A source whose calls have their places in it, if it can be read. -/
def Placed (source : String) : Prop :=
  ∀ tree, treeOf? source = some tree → tree.WellPlaced (splitLines (textOf source))

theorem placed_of_exists {source : String}
    (h : ∃ tree, treeOf? source = some tree ∧ tree.WellPlaced (splitLines (textOf source))) :
    Placed source := by
  obtain ⟨tree, hread, hplaced⟩ := h
  intro tree' hread'
  cases hread.symm.trans hread'
  exact hplaced

theorem entriesOf_of_unread (config : Config) {source : String} (h : treeOf? source = none) :
    entriesOf config source = [] := by
  unfold entriesOf
  rw [h]

section Body

variable {config : Config} (files : List (String × Text.Bytes)) (id : String) {source : String}

/-- Only a null character keeps a source from having a body. -/
theorem bodyOf_of_placed (htotal : config.Total) (hplaced : Placed source) :
    ('\x00' ∈ source.toList → bodyOf config files id source = .error .nullCharacter) ∧
      ('\x00' ∉ source.toList → ∃ m, bodyOf config files id source = .ok m) := by
  refine ⟨bodyOf_of_null config files id, fun hnull => ?_⟩
  rcases hread : treeOf? source with _ | tree
  · obtain ⟨reason, location, hbody⟩ := bodyOf_of_unread config files _ hnull hread
    exact ⟨_, hbody⟩
  · obtain ⟨m, hbody, -⟩ := bodyOf_output config files id hread (hplaced tree hread) htotal
    exact ⟨m, hbody⟩

end Body

namespace Compilation

/-- A module of a name and a source that is as it should be. -/
structure Settled (config : Config) (job : String × String) (m : Module) : Prop where
  id : m.id = job.1
  source : m.source = job.2
  /-- A source that cannot be read is its own output, with the reason and nothing else. -/
  unread : treeOf? job.2 = none → m.output = job.2 ∧ m.dependencies = [] ∧ m.records = [] ∧
    ∃ reason location, m.buildErrors = [.parse job.1 reason location]
  /-- In a source that is read, the literals stand in the places of the calls that are folded. -/
  folded : ∀ tree, treeOf? job.2 = some tree →
    m.output = String.ofList (markOf job.2 ++ Substitution.replaced (textOf job.2) m.dependencies) ∧
    (∀ d, d ∈ m.dependencies ↔ ∃ path s r,
      tree.FoldedAt config.functionName (indexOf (textOf job.2)) Guard.traversal.levels path s ∧
        resolved config s.miss = .ok r ∧ d = Substitution.of r.value s r.outcome) ∧
    ∀ e ∈ m.buildErrors, e.kind = .nesting

section Call

variable {config : Config} {files : List (String × Text.Bytes)} {c : Compilation}

/-- The module that is built of a placed source, where nothing was left for it. -/
theorem Built.settled {job : String × String} {m : Module} (hconfig : c.config = config)
    (hfiles : c.files = files) (htotal : config.Total) (hplaced : Placed job.2)
    (hbuilt : Built c job m) (hagrees : Agrees config files nothingLeft job m) :
    Settled config job m := by
  obtain ⟨body, w, hbody, rfl⟩ := hbuilt.body
  rw [hconfig, hfiles] at hbody
  have hisBody := Module.IsBody.of_bodyOf hbody
  refine ⟨hisBody.id, hisBody.source, fun hread => ?_, fun tree hread => ?_⟩
  · have hnull := not_null_of_bodyOf hbody
    obtain ⟨reason, location, hunread⟩ := bodyOf_of_unread config files _ hnull hread
    cases hunread.symm.trans hbody
    obtain ⟨alone, halone, -, -, -, hrecords⟩ := hagrees
    rw [buildModule_fresh, hbody, written, entriesOf_of_unread config hread] at halone
    cases halone
    have hwarnings : w.warnings = none := (hrecords .warning).mpr List.nil_prefix
    have herrors : w.errors = none := (hrecords .error).mpr List.nil_prefix
    refine ⟨rfl, rfl, ?_, reason, location, rfl⟩
    show w.warnings.toList ++ w.errors.toList = []
    rw [hwarnings, herrors]
    rfl
  · obtain ⟨m, hm, houtput, hdependencies⟩ :=
      bodyOf_output config files job.1 hread (hplaced tree hread) htotal
    cases hm.symm.trans hbody
    refine ⟨houtput, fun d => ?_, ?_⟩
    · show d ∈ body.dependencies ↔ _
      rw [hdependencies]
      exact mem_substitutions_iff config (hplaced tree hread) _ d
    · intro e he
      obtain ⟨-, -, hunread, -⟩ | ⟨limit, count, location, rfl⟩ := eq_of_mem_buildErrors hbody he
      · rw [hread] at hunread
        cases hunread
      · rfl

theorem forall₂_settled {jobs : List (String × String)} {ms : List Module} (hconfig : c.config = config)
    (hfiles : c.files = files) (htotal : config.Total) (hplaced : ∀ job ∈ jobs, Placed job.2)
    (hbuilt : List.Forall₂ (Built c) jobs ms)
    (hagrees : List.Forall₂ (Agrees config files nothingLeft) jobs ms) :
    List.Forall₂ (Settled config) jobs ms := by
  induction hbuilt with
  | nil => exact .nil
  | cons hm _ ih =>
    cases hagrees with
    | cons hm' hrest =>
      exact .cons (hm.settled hconfig hfiles htotal (hplaced _ List.mem_cons_self) hm')
        (ih (fun job hjob => hplaced job (List.mem_cons_of_mem _ hjob)) hrest)

/-- A call with sources of different names that are placed. -/
structure Call.Proper (call : Call) : Prop where
  distinct : (call.sources.map Prod.fst).Nodup
  placed : ∀ job ∈ call.sources, Placed job.2

/-- Builds of placed sources leave nothing behind, even if they fail. -/
theorem leave_of_placed (htotal : config.Total) {job : String × String} (hplaced : Placed job.2) :
    leave config files nothingLeft job = nothingLeft := by
  obtain ⟨hnull, hother⟩ := bodyOf_of_placed files job.1 htotal hplaced
  funext id s
  unfold leave
  by_cases h : '\x00' ∈ job.2.toList
  · rw [hnull h, entriesOf_of_unread config (treeOf?_of_null h)]
    exact ite_self _
  · obtain ⟨m, hm⟩ := hother h
    rw [hm]
    exact ite_self _

/-- The windows stay tidy through all calls. -/
theorem after_tidy {calls : List Call} (h : c.aggregator.Tidy)
    (hids : ∀ call ∈ calls, (call.sources.map Prod.fst).Nodup) : (c.after calls).aggregator.Tidy := by
  unfold after
  induction calls generalizing c with
  | nil => exact h
  | cons call calls ih =>
    have hdone := (run_done h (hids call List.mem_cons_self)).1
    exact ih hdone.keeps.tidy fun call' hcall' => hids call' (List.mem_cons_of_mem _ hcall')

/-- A null character is the only reason why a call for placed sources fails. -/
theorem result_of_placed (h : c.aggregator.Tidy) (htotal : c.config.Total) {call : Call}
    (hcall : call.Proper) :
    ((∀ job ∈ call.sources, '\x00' ∉ job.2.toList) → ∃ ms, (call.run c).2 = .ok ms) ∧
    ((∃ job ∈ call.sources, '\x00' ∈ job.2.toList) → (call.run c).2 = .error .nullCharacter) := by
  have hbody := fun job hjob => bodyOf_of_placed c.files job.1 htotal (hcall.placed job hjob)
  constructor
  · intro hnull
    exact (exists_run_iff h hcall.distinct).mpr fun job hjob => (hbody job hjob).2 (hnull job hjob)
  · rintro ⟨job, hjob, hnull⟩
    rcases hrun : (call.run c).2 with f | ms
    · obtain ⟨job', hjob', hfails⟩ := (run_done h hcall.distinct).1.faulty f hrun
      by_cases hnull' : '\x00' ∈ job'.2.toList
      · rw [(hbody job' hjob').1 hnull'] at hfails
        cases hfails
        rfl
      · obtain ⟨m, hm⟩ := (hbody job' hjob').2 hnull'
        rw [hm] at hfails
        cases hfails
    · obtain ⟨m, hm⟩ := (exists_run_iff h hcall.distinct).mp ⟨ms, hrun⟩ job hjob
      rw [(hbody job hjob).1 hnull] at hm
      cases hm

/-- With sources that answer every key, a call after any others returns a module for each source, of which
none has a null character: it is the source itself with one build error if that cannot be read, and
else the source is folded; all windows are sealed. With a null character in a source the call fails, stores
nothing and leaves the window of that source open. -/
theorem run_settles (htotal : config.Total) {calls : List Call} {call : Call}
    (hcalls : ∀ call' ∈ call :: calls, call'.Proper) :
    let c := (fresh config files).after calls
    ((∀ job ∈ call.sources, '\x00' ∉ job.2.toList) →
      (∃ ms, (call.run c).2 = .ok ms ∧ List.Forall₂ (Settled config) call.sources ms) ∧
        ∀ job ∈ call.sources, ∃ w, (call.run c).1.aggregator.window? job.1 = some w ∧ w.isSealed) ∧
    ((∃ job ∈ call.sources, '\x00' ∈ job.2.toList) →
      (call.run c).2 = .error .nullCharacter ∧ (call.run c).1.modules = c.modules ∧
        ∀ job ∈ call.sources, '\x00' ∈ job.2.toList → (call.run c).1.aggregator.IsOpen job.1) := by
  intro c
  have hcall := hcalls call List.mem_cons_self
  have hpast := fun call' (h : call' ∈ calls) => hcalls call' (List.mem_cons_of_mem _ h)
  have halong := after_along config files calls
  rw [leftBy_of_leave fun call' h job hjob => leave_of_placed htotal ((hpast call' h).placed job hjob)]
    at halong
  have htidy : c.aggregator.Tidy :=
    after_tidy Aggregator.tidy_empty fun call' h => (hpast call' h).distinct
  have hconfig : c.config = config := halong.config
  have hfiles : c.files = files := halong.files
  obtain ⟨hok, herror⟩ := result_of_placed htidy (hconfig ▸ htotal) hcall
  obtain ⟨hdone, hstored⟩ := run_done htidy hcall.distinct
  constructor
  · intro hnull
    obtain ⟨ms, hms⟩ := hok hnull
    have hbuilt := hdone.built ms hms
    refine ⟨⟨ms, hms, ?_⟩, fun job hjob => ?_⟩
    · exact forall₂_settled (hdone.keeps.config.trans hconfig) (hdone.keeps.files.trans hfiles)
        htotal hcall.placed hbuilt ((run_along halong call).2 ms hms hcall.distinct)
    · obtain ⟨m, -, hm⟩ := exists_of_mem_forall₂ hbuilt hjob
      obtain ⟨w, hw, hsealed, -⟩ := hm.seals
      exact ⟨w, hm.id ▸ hw, hsealed⟩
  · intro hnull
    have hfails := herror hnull
    rw [hfails] at hstored
    refine ⟨hfails, hstored, fun job hjob hnull' => hdone.unsealed job hjob ?_⟩
    rw [hconfig, hfiles, (bodyOf_of_placed files job.1 htotal (hcall.placed job hjob)).1 hnull']
    rfl

end Call

/-- A source that cannot be read. -/
def unclosed : String := "x = (\n"

/-- A call for a source that is read and one that is not. -/
def mixedCall : Call := .many [("a.py", sample), ("b.py", unclosed)] 2 fun _ => true

/-- This call, after one for the source that is not read. -/
theorem run_settles_sample :
    ∃ ms, sampleConfig.Total ∧ (∀ call' ∈ [mixedCall, .one "a.py" unclosed], call'.Proper) ∧
      (mixedCall.run ((fresh sampleConfig []).after [.one "a.py" unclosed])).2 = .ok ms ∧
      List.Forall₂ (Settled sampleConfig) mixedCall.sources ms := by
  have hunclosed : Placed unclosed := by
    have hnone : (treeOf? unclosed).isNone = true := by decide +kernel
    intro tree hread
    rw [Option.isNone_iff_eq_none.mp hnone] at hread
    cases hread
  have hsample : Placed sample := placed_of_exists treeOf?_sample
  have hproper : ∀ call' ∈ [mixedCall, .one "a.py" unclosed], call'.Proper := by
    intro call' hcall'
    rcases List.mem_pair.mp hcall' with rfl | rfl
    · refine ⟨by decide, fun job hjob => ?_⟩
      rcases List.mem_pair.mp hjob with rfl | rfl
      · exact hsample
      · exact hunclosed
    · exact ⟨by decide, fun job hjob => List.mem_singleton.mp hjob ▸ hunclosed⟩
  have hnull : ∀ job ∈ mixedCall.sources, '\x00' ∉ job.2.toList := by
    decide +kernel
  obtain ⟨⟨ms, hms, hsettled⟩, -⟩ := (@run_settles _ [] sampleConfig_total _ _ hproper).1 hnull
  exact ⟨ms, sampleConfig_total, hproper, hms, hsettled⟩

/-- A null character at the end of a source: there is no module of that source nor of the other one, and
the window of the source stays open. -/
theorem buildModule_null :
    Config.Total {} ∧
    ((fresh {} []).buildModule "a.py" "x = 1\x00\n").2.isOk = false ∧
    (((fresh {} []).buildModule "a.py" "x = 1\x00\n").1.aggregator.window? "a.py").map Window.isSealed =
      some false ∧
    ((fresh {} []).buildModules [("a.py", "x = 1\x00\n"), ("b.py", "x = 1\n")] 1).1.modules.length =
      0 := by
  refine ⟨fun key => ⟨nofun, nofun⟩, ?_, ?_, ?_⟩
  · decide +kernel
  · decide +kernel
  · decide +kernel

end Compilation

end Localize
