/-
  Runs of the command line that come to a build. The names of its modules are apart, so the compilation of
  a run is in agreement when the build returns (`agreement_start`). When everything is written too, the run
  ends with 1 just if it is strict and one of the diagnostics that it reports is an error, and else with 0
  (`exit_agreement`). A run whose build fails, or whose modules cannot be written, has no exit code
  (`run_taken`).
-/
import Localize.Proofs.CommandLine.Input
import Localize.Proofs.Compilation.Agreement

namespace Localize.CommandLine

open Compilation (Agreement Call Completes fresh stored)

/-- The compilation that a run begins with. -/
def Prepared.start (tree : Tree) (p : Prepared) : Compilation :=
  fresh p.config (filesNamed tree p.inputs)

/-- The names and sources of a run. -/
def Prepared.sources (p : Prepared) : List (String × String) := p.inputs.map fun i => (i.id, i.text)

theorem Prepared.map_sources (p : Prepared) : p.sources.map Prod.fst = p.inputs.map Input.id :=
  List.map_map

/-- The writing of modules, if there is a directory for them. -/
def Prepared.writing (tree : Tree) (p : Prepared) (ms : List Module) :
    Tree × List Event × Except FileFault Unit :=
  match p.outDir with
  | some outDir => writeModules tree outDir p.inputs ms
  | none => (tree, [], .ok ())

/-- What a run ends with for its diagnostics. -/
def exitCode (strict : Bool) (ds : List Diagnostic) : Nat :=
  if strict = true ∧ ∃ d ∈ ds, d.severity = .error then 1 else 0

section Build

variable {host : Host} {tree : Tree} (o : Options) (formatter : Formatter) {jobs : Int} {p : Prepared}
  {ms : List Module}

/-- The compilation of a run whose build returns has stored the modules that are reported, and is in
agreement. -/
theorem agreement_start (hids : (p.inputs.map Input.id).Nodup)
    (hbuilt : ((p.start tree).buildModules p.sources jobs host.begun).2 = .ok ms) :
    Agreement ((p.start tree).buildModules p.sources jobs host.begun).1 ∧
      ((p.start tree).buildModules p.sources jobs host.begun).1.diagnostics = Compilation.collect ms := by
  have hfresh := Compilation.agreement_fresh p.config (filesNamed tree p.inputs)
  have hids' : ((Call.many p.sources jobs host.begun).sources.map Prod.fst).Nodup := p.map_sources ▸ hids
  have hagreement := Compilation.run_agreement hfresh hids' hbuilt
  obtain ⟨hdone, hstored⟩ := Compilation.run_done hfresh.tidy hids'
  have hms := Compilation.ids_of_built (hdone.built ms hbuilt)
  refine ⟨hagreement, ?_⟩
  have hmodules : ((p.start tree).buildModules p.sources jobs host.begun).1.modules =
      stored [] (.ok ms) := by
    rw [← hbuilt]
    exact hstored
  unfold Compilation.diagnostics
  rw [hmodules, Compilation.stored_of_nodup (by rw [hms]; exact hids'), List.nil_append, List.map_map]
  exact congrArg Compilation.collect (List.map_id ms)

/-- What a run comes to by what its build comes to. -/
theorem build_eq (host : Host) (tree : Tree) (o : Options) (formatter : Formatter) (jobs : Int)
    (p : Prepared) :
    ∃ lines, build tree o formatter jobs p host =
      match (p.start tree).buildModules p.sources jobs host.begun with
      | (_, .error f) => ⟨lines, tree, .error (.build f)⟩
      | (c, .ok ms) =>
        match p.writing tree ms with
        | (tree, _, .error f) => ⟨lines, tree, .error (.file f)⟩
        | (tree, _, .ok ()) =>
          ⟨lines ++ if (Compilation.collect ms).isEmpty then []
              else [formatter.formatAll (Compilation.collect ms)], tree,
            .ok (if o.strict && c.hasErrors then 1 else 0)⟩ := by
  unfold build Prepared.start Prepared.sources Prepared.writing fresh
  dsimp only
  generalize Compilation.buildModules { config := p.config, files := filesNamed tree p.inputs }
    (p.inputs.map fun i => (i.id, i.text)) jobs host.begun = built
  rcases built with ⟨c, f | ms⟩
  · exact ⟨_, rfl⟩
  · dsimp only
    rcases p.outDir with _ | outDir
    · exact ⟨_, rfl⟩
    · dsimp only
      generalize writeModules tree outDir p.inputs ms = written
      rcases written with ⟨after, events, f | u⟩
      · exact ⟨_, rfl⟩
      · exact ⟨_, rfl⟩

/-- A run whose build fails breaks off. -/
theorem exit_of_error {f : BuildFault}
    (hbuilt : ((p.start tree).buildModules p.sources jobs host.begun).2 = .error f) :
    (build tree o formatter jobs p host).exit = .error (.build f) := by
  obtain ⟨lines, hrun⟩ := build_eq host tree o formatter jobs p
  rw [hrun]
  rcases hresult : (p.start tree).buildModules p.sources jobs host.begun with ⟨c, result⟩
  rw [hresult] at hbuilt
  dsimp only at hbuilt ⊢
  rw [hbuilt]

/-- A run whose build returns breaks off if its modules cannot be written, and else it ends with the code
for the diagnostics of the modules, which it reports if there are any. -/
theorem exit_of_ok (hids : (p.inputs.map Input.id).Nodup)
    (hbuilt : ((p.start tree).buildModules p.sources jobs host.begun).2 = .ok ms) :
    (∀ f, (p.writing tree ms).2.2 = .error f →
      (build tree o formatter jobs p host).exit = .error (.file f)) ∧
    ((p.writing tree ms).2.2 = .ok () →
      (build tree o formatter jobs p host).exit = .ok (exitCode o.strict (Compilation.collect ms)) ∧
        ∃ lines, (build tree o formatter jobs p host).reports =
          lines ++ if (Compilation.collect ms).isEmpty then []
            else [formatter.formatAll (Compilation.collect ms)]) := by
  obtain ⟨hagreement, hdiagnostics⟩ := agreement_start hids hbuilt
  have herrors := hagreement.hasErrors_iff
  rw [hdiagnostics] at herrors
  obtain ⟨lines, hrun⟩ := build_eq host tree o formatter jobs p
  rw [hrun]
  rcases hresult : (p.start tree).buildModules p.sources jobs host.begun with ⟨c, result⟩
  rw [hresult] at hbuilt herrors
  dsimp only at hbuilt herrors ⊢
  rw [hbuilt]
  dsimp only
  rcases p.writing tree ms with ⟨after, events, f | u⟩
  · refine ⟨fun f' hf => ?_, nofun⟩
    cases hf
    rfl
  · refine ⟨nofun, fun _ => ⟨?_, lines, rfl⟩⟩
    unfold exitCode
    simp only [Bool.and_eq_true, herrors]

end Build

/-! ## Runs -/

/-- Arguments whose run comes to a build: they give options, and all that is to be built is prepared. -/
structure Builds (tree : Tree) (arguments : List String) (o : Options) (style : Style) (jobs : Int)
    (p : Prepared) (host : Host := {}) : Prop where
  options : Options.of arguments = .ok o
  style : o.style = some style
  jobs : o.jobs = some jobs
  prepared : (prepare tree o host).2 = .ok p

section Run

variable {host : Host} {tree : Tree} {arguments : List String} {o : Options} {style : Style} {jobs : Int}
  {p : Prepared}

/-- The run of arguments that come to a build reports what was prepared and then what was built. -/
theorem run_eq_of_builds (h : Builds tree arguments o style jobs p host) :
    run tree arguments host =
      { build tree o { style } jobs p host with
        reports :=
          linesOf o.verbosity (prepare tree o host).1 ++ (build tree o { style } jobs p host).reports } := by
  have hprepare : prepare tree o host = ((prepare tree o host).1, .ok p) := Prod.ext rfl h.prepared
  unfold run
  rw [h.options]
  dsimp only
  rw [h.style]
  dsimp only
  unfold runOptions
  rw [hprepare]
  dsimp only
  rw [h.jobs]

theorem run_of_builds (h : Builds tree arguments o style jobs p host) :
    ∃ lines, run tree arguments host =
      { build tree o { style } jobs p host with
        reports := lines ++ (build tree o { style } jobs p host).reports } :=
  ⟨_, run_eq_of_builds h⟩

/-- After calls that all return, the modules with a window are those of the table, the window of each is
sealed with the records of the module, and there are errors just if a diagnostic of a module is one.
So a run that comes to a build and can write what it builds ends with 1 if it is strict and one of the
diagnostics that it reports is an error, and else with 0. It has no exit code if the build fails or the
writing does. -/
theorem exit_agreement {config : Config} {files : List (String × Text.Bytes)} {calls : List Call}
    (hcalls : Completes (fresh config files) calls) (h : Builds tree arguments o style jobs p host) :
    (let c := (fresh config files).after calls;
      (∀ id, c.aggregator.contains id = true ↔ id ∈ c.modules.map Prod.fst) ∧
      (∀ e ∈ c.modules, ∃ w, c.aggregator.window? e.1 = some w ∧ w.isSealed = true ∧
        w.warnings = e.2.warnings ∧ w.errors = e.2.errors) ∧
      (c.hasErrors = true ↔ ∃ d ∈ c.diagnostics, d.severity = .error)) ∧
    (∀ f, ((p.start tree).buildModules p.sources jobs host.begun).2 = .error f →
      (run tree arguments host).exit = .error (.build f)) ∧
    ∀ ms, ((p.start tree).buildModules p.sources jobs host.begun).2 = .ok ms →
      (∀ f, (p.writing tree ms).2.2 = .error f → (run tree arguments host).exit = .error (.file f)) ∧
      ((p.writing tree ms).2.2 = .ok () →
        (run tree arguments host).exit = .ok (exitCode o.strict (Compilation.collect ms)) ∧
        ∃ lines, (run tree arguments host).reports =
          lines ++ if (Compilation.collect ms).isEmpty then []
            else [({ style } : Formatter).formatAll (Compilation.collect ms)]) := by
  obtain ⟨lines, hrun⟩ := run_of_builds h
  rw [hrun]
  refine ⟨?_, fun f hbuilt => exit_of_error _ _ hbuilt, fun ms hbuilt => ?_⟩
  · have hagreement := Compilation.after_agreement (Compilation.agreement_fresh config files) hcalls
    refine ⟨hagreement.windows, fun e he => ?_, hagreement.hasErrors_iff⟩
    obtain ⟨w, hw, hrecords⟩ := hagreement.sealed e he
    exact ⟨w, hagreement.named e he ▸ hw, hrecords⟩
  · obtain ⟨hfails, hends⟩ := exit_of_ok o { style }
      (nodup_prepare h.prepared) hbuilt
    refine ⟨hfails, fun hwritten => ?_⟩
    obtain ⟨hexit, lines', hreports⟩ := hends hwritten
    refine ⟨hexit, lines ++ lines', ?_⟩
    rw [hreports, List.append_assoc]

end Run

theorem ok_of_toOption {α ε : Type} {x : Except ε α} {a : α} (h : x.toOption = some a) : x = .ok a := by
  cases x with
  | error e => cases h
  | ok b =>
    cases h
    rfl

/-- A tree with a module that cannot be read and one that is fine. -/
def sampleTree : Tree where
  home := []
  nodes := [(["a.py"], .file (Text.encodeUtf8 "x = (\n".toList)),
    (["b.py"], .file (Text.encodeUtf8 "x = 1\n".toList)), (["out"], .file [])]

/-- A strict run with an error, after calls in which a module was built again. -/
theorem exit_agreement_sample :
    ∃ o p ms, Completes (fresh {} []) [.one "a.py" "x = (\n", .one "a.py" "x = 1\n"] ∧
      Builds sampleTree ["a.py", "--strict"] o .rust 1 p ∧
      ((p.start sampleTree).buildModules p.sources 1).2 = .ok ms ∧
      (p.writing sampleTree ms).2.2 = .ok () ∧
      (run sampleTree ["a.py", "--strict"]).exit = .ok (exitCode o.strict (Compilation.collect ms)) := by
  have hcalls : Completes (fresh {} []) [.one "a.py" "x = (\n", .one "a.py" "x = 1\n"] := by
    refine ⟨by decide, ?_, by decide, ?_, trivial⟩
    · decide +kernel
    · decide +kernel
  have hcheck : ((Options.of ["a.py", "--strict"]).toOption.map fun o =>
      ((o.style, o.jobs), (prepare sampleTree o).2.toOption.map fun p =>
        (p.outDir, ((p.start sampleTree).buildModules p.sources 1).2.isOk))) =
      some ((some .rust, some 1), some (none, true)) := by decide +kernel
  obtain ⟨o, ho, hcheck⟩ := Option.map_eq_some_iff.mp hcheck
  obtain ⟨hoptions, hcheck⟩ := Prod.mk.inj hcheck
  obtain ⟨hstyle, hjobs⟩ := Prod.mk.inj hoptions
  obtain ⟨p, hp, hcheck⟩ := Option.map_eq_some_iff.mp hcheck
  obtain ⟨houtDir, hok⟩ := Prod.mk.inj hcheck
  have hbuilds : Builds sampleTree ["a.py", "--strict"] o .rust 1 p :=
    ⟨ok_of_toOption ho, hstyle, hjobs, ok_of_toOption hp⟩
  rcases hbuilt : ((p.start sampleTree).buildModules p.sources 1).2 with f | ms
  · rw [hbuilt] at hok
    cases hok
  · have hwritten : (p.writing sampleTree ms).2.2 = .ok () := by
      unfold Prepared.writing
      rw [houtDir]
    exact ⟨o, p, ms, hcalls, hbuilds, hbuilt, hwritten,
      (((exit_agreement hcalls hbuilds).2.2 ms hbuilt).2 hwritten).1⟩

/-- The failure to write that a run breaks off with. -/
def Run.fault? (r : Run) : Option FileFault :=
  match r.exit with
  | .error (.file f) => some f
  | _ => none

/-- A run whose build returns without a diagnostic, but which cannot write where there is a file. -/
theorem run_taken :
    (run sampleTree ["b.py", "-o", "out"]).fault? = some (.failed .present "out") ∧
      (run sampleTree ["b.py", "-o", "out"]).reports = [] := by
  decide +kernel

end Localize.CommandLine
