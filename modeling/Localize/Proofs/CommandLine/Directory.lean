/-
  What directories contribute. A directory stands for all that is named as a module below it, which is the
  files so named just if no directory is (`contributes_iff`). If one is, it is taken for a module that cannot
  be read, and nothing is built (`not_prepared`). Otherwise nothing else counts: trees that have the same below
  their sources under such names prepare the same (`prepare_congr`), and so come to the same run, up to what
  stands where modules are written and where the columns of what cannot be parsed are counted
  (`run_of_modules`).
-/
import Localize.Proofs.CommandLine.Collected
import Localize.Proofs.CommandLine.Frame
import Localize.Proofs.Text.Order

namespace Localize.CommandLine

/-! ## What a directory contributes -/

section Contributes

variable {t : Tree} {source : Path}

/-- A module that is a file below a source, named from there. -/
def IsFileBelow (t : Tree) (source : Path) (e : String × Path) : Prop :=
  ∃ names content, isModuleName names = true ∧
    t.node? (source.resolve t.home ++ names) = some (.file content) ∧
    e = (Path.joined names, source.append { names })

/-- A directory that is named as a module below a source. -/
def HasModuleDirectory (t : Tree) (source : Path) : Prop :=
  t.isDirectory source = .ok true ∧
    ∃ names, isModuleName names = true ∧ t.node? (source.resolve t.home ++ names) = some .directory

theorem append_inj {names names' : List String} (h : source.append { names } = source.append { names := names' }) :
    names = names' :=
  List.append_cancel_left (congrArg Path.names h)

/-- A directory contributes the files that are named as modules below it, and nothing else, just if no
directory is so named. -/
theorem contributes_iff (h : t.isDirectory source = .ok true) {added : List (String × Path)}
    (hof : modulesOf t source = .ok added) :
    (∀ e, e ∈ added ↔ IsFileBelow t source e) ↔ ¬HasModuleDirectory t source := by
  have hmem : ∀ e, e ∈ added ↔ Stands t source e := fun e => mem_modulesOf hof
  constructor
  · rintro hfiles ⟨-, names, hname, hnode⟩
    have hstands : Stands t source (Path.joined names, source.append { names }) :=
      .below h (by rw [hnode]; nofun) hname
    obtain ⟨names', content, -, hnode', he⟩ := (hfiles _).mp ((hmem _).mpr hstands)
    cases append_inj (Prod.mk.inj he).2
    cases hnode.symm.trans hnode'
  · intro hnone e
    rw [hmem]
    constructor
    · rintro (hfalse | ⟨-, hnode, hname⟩)
      · cases h.symm.trans hfalse
      · rename_i names
        rcases hfound : t.node? (source.resolve t.home ++ names) with _ | (content | -)
        · exact absurd hfound hnode
        · exact ⟨names, content, hname, hfound, rfl⟩
        · exact absurd ⟨h, names, hname, hfound⟩ hnone
    · rintro ⟨names, content, hname, hnode, rfl⟩
      exact .below h (by rw [hnode]; nofun) hname

theorem nodup_modulesBelow (h : t.Distinct) (trail : Trail) : (modulesBelow t trail).Nodup :=
  (sortBy_perm _ _).nodup_iff.mpr ((Tree.nodup_below h trail).filter _)

end Contributes

/-! ## Directories that are named as modules -/

section Refused

variable {host : Host} {t : Tree} {o : Options}

/-- Whatever a run has prepared, the places of its inputs hold files. -/
theorem file_of_prepare {p : Prepared} (h : (prepare t o host).2 = .ok p)
    {e : String × Path} (he : e ∈ inputsOf t o.sources) :
    ∃ content, t.node? (e.2.resolve t.home) = some (.file content) := by
  obtain ⟨modules, hcollect, hreads⟩ := exists_collect h
  obtain ⟨path, -, hmodule, hplace⟩ := (keeps_of_collect hcollect).2.lead e he
  obtain ⟨i, -, hread⟩ := exists_of_mem_forall₂ hreads hmodule
  obtain ⟨bytes, cs, hbytes, -, -⟩ := readModule_eq_ok hread.text
  rw [hread.path] at hbytes
  exact ⟨bytes, hplace ▸ (Tree.read_eq_ok hbytes).2⟩

/-- Where a directory is named as a module below a source, nothing can be prepared. -/
theorem not_prepared (hsound : t.Sound) {source : Path} (hsource : source ∈ o.sources)
    (h : HasModuleDirectory t source) (p : Prepared) : (prepare t o host).2 ≠ .ok p := by
  intro hprepared
  obtain ⟨hdirectory, names, hname, hnode⟩ := h
  have hnode' : t.node? (source.resolve t.home ++ names) ≠ none := by rw [hnode]; nofun
  have hproper : ∀ name ∈ names, Path.Proper name := fun name hmem =>
    hsound.proper_of_node? hnode' name (List.mem_append_right _ hmem)
  obtain ⟨modules, hcollect, -⟩ := exists_collect hprepared
  have hinput : (Path.joined names, source.append { names }) ∈ inputsOf t o.sources :=
    mem_inputsOf.mpr ⟨source, by rw [(keeps_of_collect hcollect).1]; exact hsource,
      .below hdirectory hnode' hname⟩
  obtain ⟨content, hfile⟩ := file_of_prepare hprepared hinput
  rw [Path.resolve_append_proper hproper] at hfile
  cases hnode.symm.trans hfile

end Refused

/-! ## Trees with the same modules -/

/-- Two trees have the same for a source: it is a directory in both or in none, a file is read alike, and
below a directory the same stands under the names of modules. -/
structure SameModules (t t' : Tree) (source : Path) : Prop where
  directory : t'.isDirectory source = t.isDirectory source
  file : t.isDirectory source = .ok false → t'.read source = t.read source
  below : t.isDirectory source = .ok true → ∀ names, isModuleName names = true →
    t'.node? (source.resolve t.home ++ names) = t.node? (source.resolve t.home ++ names)

/-- Two trees have the same for options: settings, sources of texts, and modules. -/
structure SameInputs (t t' : Tree) (o : Options) (host : Host := {}) : Prop where
  home : t'.home = t.home
  settings : settingsOf t' o = settingsOf t o
  loads : ∀ settings, settingsOf t o = .ok settings →
    ∀ path ∈ [settings.localization, settings.fallback],
      loadSource? host t' settings.locale path = loadSource? host t settings.locale path
  modules : ∀ source ∈ o.sources, SameModules t t' source

section Same

variable {t t' : Tree}

theorem modulesBelow_congr (hdistinct : t.Distinct) (hdistinct' : t'.Distinct) {trail : Trail}
    (h : ∀ names, isModuleName names = true → t'.node? (trail ++ names) = t.node? (trail ++ names)) :
    modulesBelow t' trail = modulesBelow t trail := by
  refine sortBy_eq_of_perm Text.strict_comeBefore ?_
  refine (List.perm_ext_iff_of_nodup ((Tree.nodup_below hdistinct' trail).filter _)
    ((Tree.nodup_below hdistinct trail).filter _)).mpr fun names => ?_
  rw [List.mem_filter, List.mem_filter]
  refine and_congr_left fun hname => ?_
  have hne : names ≠ [] := by
    rintro rfl
    cases hname
  rw [Tree.mem_below hne, Tree.mem_below hne, h names hname]

theorem SameModules.modulesOf {source : Path} (h : SameModules t t' source) (hhome : t'.home = t.home)
    (hdistinct : t.Distinct) (hdistinct' : t'.Distinct) :
    CommandLine.modulesOf t' source = CommandLine.modulesOf t source := by
  have hdirectory' := h.directory
  rcases hdirectory : t.isDirectory source with f | _ | _
  · rw [hdirectory] at hdirectory'
    rw [modulesOf_of_error hdirectory, modulesOf_of_error hdirectory']
  · rw [hdirectory] at hdirectory'
    rw [modulesOf_of_file hdirectory, modulesOf_of_file hdirectory']
  · rw [hdirectory] at hdirectory'
    rw [modulesOf_of_directory hdirectory, modulesOf_of_directory hdirectory', hhome,
      modulesBelow_congr hdistinct hdistinct' (h.below hdirectory)]

/-- What a source stands for is read alike. -/
theorem SameModules.read {source : Path} (h : SameModules t t' source) (hhome : t'.home = t.home)
    (hsound : t.Sound) (hsound' : t'.Sound) {e : String × Path} (he : Stands t source e) :
    t'.read e.2 = t.read e.2 := by
  rcases he with hfile | ⟨hdirectory, hnode, hname⟩
  · exact h.file hfile
  · exact Tree.read_below hsound hsound' hhome hdirectory (h.directory.trans hdirectory) hnode
      (h.below hdirectory _ hname)

theorem collect_congr (hhome : t'.home = t.home) {sources : List Path}
    (h : ∀ source ∈ sources, modulesOf t' source = modulesOf t source) :
    collect t' sources = collect t sources := by
  unfold collect
  rw [hhome]
  generalize ([] : List (String × Path)) = modules
  induction sources generalizing modules with
  | nil => rfl
  | cons source rest ih =>
    rw [List.foldlM_cons, List.foldlM_cons, h source List.mem_cons_self]
    exact bind_congr fun modules' => ih (fun s hs => h s (List.mem_cons_of_mem _ hs)) modules'

theorem readModules_congr {modules : List (String × Path)} (h : ∀ e ∈ modules, t'.read e.2 = t.read e.2) :
    readModules t' modules = readModules t modules := by
  unfold readModules
  induction modules with
  | nil => rfl
  | cons e rest ih =>
    have hread : readModule t' e.2 = readModule t e.2 := by
      unfold readModule
      rw [h e List.mem_cons_self]
    rw [List.mapM_cons, List.mapM_cons, ih fun e' he' => h e' (List.mem_cons_of_mem _ he')]
    dsimp only
    rw [hread]

variable {host : Host} {o : Options}

/-- What is prepared depends on nothing but the settings, the sources of texts and the modules. -/
theorem prepare_congr (hsound : t.Sound) (hsound' : t'.Sound) (hdistinct : t.Distinct)
    (hdistinct' : t'.Distinct) (h : SameInputs t t' o host) : prepare t' o host = prepare t o host := by
  have hcollect : collect t' o.sources = collect t o.sources :=
    collect_congr h.home fun source hsource =>
      (h.modules source hsource).modulesOf h.home hdistinct hdistinct'
  have hread : ∀ modules, collect t o.sources = .ok modules →
      readModules t' modules = readModules t modules := by
    intro modules hmodules
    refine readModules_congr fun e he => ?_
    obtain ⟨source, hsource, added, hof, hadded⟩ := (collected_of_collect hmodules).origin e he
    exact (h.modules source hsource).read h.home hsound hsound' ((mem_modulesOf hof).mp hadded)
  have hinputs : ∀ settings primary fallback,
      prepareInputs t' o settings primary fallback = prepareInputs t o settings primary fallback := by
    intro settings primary fallback
    unfold prepareInputs
    refine bind_congr fun config => ?_
    rw [hcollect]
    rcases hmodules : collect t o.sources with f | modules
    · rfl
    · dsimp only [Except.mapError, bind, Except.bind]
      rw [hread modules hmodules]
  unfold prepare
  rw [h.settings]
  rcases hsettings : settingsOf t o with f | settings
  · rfl
  · dsimp only
    rw [h.loads settings hsettings _ List.mem_cons_self,
      h.loads settings hsettings _ (List.mem_cons_of_mem _ List.mem_cons_self)]
    rcases loadSource? host t settings.locale settings.localization with f | primary
    · rfl
    · dsimp only
      rcases loadSource? host t settings.locale settings.fallback with f | fallback
      · rfl
      · dsimp only
        rw [hinputs]

end Same

/-! ## Runs -/

section Build

variable {host : Host} {t t' : Tree} {o : Options} {p : Prepared} {outDir : Path} {ms : List Module}

/-- What writing modules reports if it does not fail. -/
theorem events_of_writeModules {inputs : List Input} {after : Tree} {events : List Event}
    (h : writeModules t outDir inputs ms = (after, events, .ok ())) :
    events = ms.map fun m => .wrote (target outDir m.id).text m.changed := by
  induction ms generalizing t events with
  | nil =>
    cases h
    rfl
  | cons m ms ih =>
    rw [writeModules] at h
    rcases hfirst : writeModule t outDir (encodingOf inputs m.id) m with ⟨next, f | event⟩
    · rw [hfirst] at h
      cases h
    · rw [hfirst] at h
      dsimp only at h
      rcases hrest : writeModules next outDir inputs ms with ⟨last, events', result⟩
      rw [hrest] at h
      cases h
      have hevent : event = .wrote (target outDir m.id).text m.changed := by
        unfold writeModule at hfirst
        dsimp only at hfirst
        split at hfirst
        · cases hfirst
        · split at hfirst
          · cases hfirst
          · cases hfirst
            rfl
      rw [ih hrest, hevent]
      rfl

/-- What a run builds and reports is the same in trees with the same files under the names of its inputs,
if it is written in both or in none. -/
theorem build_congr (hfiles : filesNamed t' p.inputs = filesNamed t p.inputs) (formatter : Formatter)
    {jobs : Int}
    (hwritten : ∀ ms, ((p.start t).buildModules p.sources jobs host.begun).2 = .ok ms →
      (p.writing t' ms).2 = (p.writing t ms).2) :
    (build t' o formatter jobs p host).reports = (build t o formatter jobs p host).reports ∧
      (build t' o formatter jobs p host).exit = (build t o formatter jobs p host).exit := by
  unfold Prepared.start Prepared.sources Prepared.writing Compilation.fresh at hwritten
  unfold build
  dsimp only
  rw [hfiles]
  generalize Compilation.buildModules { config := p.config, files := filesNamed t p.inputs }
    (p.inputs.map fun i => (i.id, i.text)) jobs host.begun = built at hwritten ⊢
  rcases built with ⟨c, f | ms⟩
  · exact ⟨rfl, rfl⟩
  · have hsame := hwritten ms rfl
    dsimp only
    rcases houtDir : p.outDir with _ | outDir
    · exact ⟨rfl, rfl⟩
    · rw [houtDir] at hsame
      dsimp only at hsame ⊢
      rcases hwrite : writeModules t outDir p.inputs ms with ⟨after, events, outcome⟩
      rcases hwrite' : writeModules t' outDir p.inputs ms with ⟨after', events', outcome'⟩
      rw [hwrite, hwrite'] at hsame
      cases hsame
      rcases outcome with f | u
      · exact ⟨rfl, rfl⟩
      · exact ⟨rfl, rfl⟩

end Build

section Run

variable {host : Host} {t t' : Tree} {arguments : List String} {o : Options}

/-- What two runs report and end with is the same. -/
structure SameResult (r r' : Run) : Prop where
  reports : r'.reports = r.reports
  exit : r'.exit = r.exit

/-- Where nothing can be built, what is prepared is all that counts. -/
theorem sameResult_of_not_builds (ho : Options.of arguments = .ok o)
    (hprepare : prepare t' o host = prepare t o host)
    (hnot : ∀ style jobs p, ¬Builds t arguments o style jobs p host) :
    SameResult (run t arguments host) (run t' arguments host) := by
  unfold run
  rw [ho]
  dsimp only
  rcases hstyle : o.style with _ | style
  · exact ⟨rfl, rfl⟩
  · dsimp only
    unfold runOptions
    rw [hprepare]
    rcases hprepared : prepare t o host with ⟨events, f | p⟩
    · dsimp only
      cases f with
      | settings f =>
        dsimp only
        split
        · exact ⟨rfl, rfl⟩
        · exact ⟨rfl, rfl⟩
      | _ => exact ⟨rfl, rfl⟩
    · dsimp only
      rcases hjobs : o.jobs with _ | jobs
      · exact ⟨rfl, rfl⟩
      · exact absurd ⟨ho, hstyle, hjobs, congrArg Prod.snd hprepared⟩ (hnot style jobs p)

/-- Where nothing can be prepared, a run changes nothing, and if it ends, then with 2. -/
theorem run_of_unprepared (ho : Options.of arguments = .ok o) (h : ∀ p, (prepare t o host).2 ≠ .ok p) :
    (run t arguments host).tree = t ∧ ∀ code, (run t arguments host).exit = .ok code → code = 2 := by
  unfold run
  rw [ho]
  dsimp only
  rcases hstyle : o.style with _ | style
  · exact ⟨rfl, nofun⟩
  · rcases hprepared : (prepare t o host).2 with f | p
    · exact runOptions_of_error { style } hprepared
    · exact absurd hprepared (h p)

theorem tree_of_not_builds (h : ∀ o style jobs p, ¬Builds t arguments o style jobs p host) :
    (run t arguments host).tree = t := by
  rcases run_cases host t arguments with ⟨o, style, jobs, p, hbuilds⟩ | ⟨htree, -⟩
  · exact absurd hbuilds (h o style jobs p)
  · exact htree

theorem Builds.eq_options {o' : Options} {style : Style} {jobs : Int} {p : Prepared}
    (h : Builds t arguments o' style jobs p host) (ho : Options.of arguments = .ok o) : o' = o :=
  Except.ok.inj (h.options.symm.trans ho)

variable {style : Style} {jobs : Int} {p : Prepared}

theorem sameResult_of_builds (h : Builds t arguments o style jobs p host)
    (h' : Builds t' arguments o style jobs p host) (hprepare : prepare t' o host = prepare t o host)
    (hfiles : filesNamed t' p.inputs = filesNamed t p.inputs)
    (hwritten : ∀ ms, ((p.start t).buildModules p.sources jobs host.begun).2 = .ok ms →
      (p.writing t' ms).2 = (p.writing t ms).2) :
    SameResult (run t arguments host) (run t' arguments host) := by
  obtain ⟨hreports, hexit⟩ := build_congr (o := o) hfiles { style } hwritten
  rw [run_eq_of_builds h, run_eq_of_builds h', hprepare]
  exact ⟨congrArg (linesOf o.verbosity (prepare t o host).1 ++ ·) hreports, hexit⟩

/-- Modules that are built alike and written in two trees are reported alike and read again alike. -/
theorem sameResult_of_written (hsound : t.Sound) (hsound' : t'.Sound)
    (h : Builds t arguments o style jobs p host) (h' : Builds t' arguments o style jobs p host)
    (hprepare : prepare t' o host = prepare t o host)
    (hfiles : filesNamed t' p.inputs = filesNamed t p.inputs) {outDir : Path}
    (houtDir : p.outDir = some outDir) {code code' : Nat} (hexit : (run t arguments host).exit = .ok code)
    (hexit' : (run t' arguments host).exit = .ok code') :
    SameResult (run t arguments host) (run t' arguments host) ∧
      ∀ i ∈ p.inputs, (run t' arguments host).tree.read (target outDir i.id) =
        (run t arguments host).tree.read (target outDir i.id) := by
  obtain ⟨-, ms, hbuilt, hwritten, htree⟩ := built_of_exit h hexit
  obtain ⟨-, ms', hbuilt', hwritten', htree'⟩ := built_of_exit h' hexit'
  obtain rfl : ms' = ms := by
    have hstart : p.start t' = p.start t := congrArg (Compilation.fresh p.config) hfiles
    rw [hstart] at hbuilt'
    exact Except.ok.inj (hbuilt'.symm.trans hbuilt)
  have hwriting : ∀ tree, p.writing tree ms' = writeModules tree outDir p.inputs ms' := by
    intro tree
    unfold Prepared.writing
    rw [houtDir]
  rw [hwriting] at hwritten hwritten' htree htree'
  rcases hwrite : writeModules t outDir p.inputs ms' with ⟨after, events, outcome⟩
  rcases hwrite' : writeModules t' outDir p.inputs ms' with ⟨after', events', outcome'⟩
  rw [hwrite] at hwritten htree
  rw [hwrite'] at hwritten' htree'
  cases hwritten
  cases hwritten'
  refine ⟨sameResult_of_builds h h' hprepare hfiles fun ms hms => ?_, fun i hi => ?_⟩
  · cases hbuilt.symm.trans hms
    rw [hwriting, hwriting, hwrite, hwrite', events_of_writeModules hwrite, events_of_writeModules hwrite']
  · obtain ⟨m, hm, hid, -⟩ := exists_module h.prepared hbuilt hi
    rw [htree, htree', read_of_build hsound h hbuilt hwrite hi hm hid,
      read_of_build hsound' h' hbuilt' hwrite' hi hm hid]

/-- A directory contributes the files that are named as modules below it just if no directory is so named,
and then nothing else in the tree counts: trees with the same settings, sources of texts and modules come to
the same run, if the same stands under the names of the modules from where the run starts and what is built
is written in both. Where a directory is named as a module nothing is built. -/
theorem run_of_modules (host : Host) (hsound : t.Sound) (hdistinct : t.Distinct)
    (ho : Options.of arguments = .ok o) :
    (∀ source ∈ o.sources, t.isDirectory source = .ok true →
      ∃ added, modulesOf t source = .ok added ∧ added.Nodup ∧
        ((∀ e, e ∈ added ↔ IsFileBelow t source e) ↔ ¬HasModuleDirectory t source)) ∧
    ((∃ source ∈ o.sources, HasModuleDirectory t source) →
      (run t arguments host).tree = t ∧ ∀ code, (run t arguments host).exit = .ok code → code = 2) ∧
    ∀ t' : Tree, t'.Sound → t'.Distinct → SameInputs t t' o host →
      ((∀ style jobs p, ¬Builds t arguments o style jobs p host) →
        SameResult (run t arguments host) (run t' arguments host) ∧
          (run t arguments host).tree = t ∧ (run t' arguments host).tree = t') ∧
      ∀ style jobs p, Builds t arguments o style jobs p host →
        filesNamed t' p.inputs = filesNamed t p.inputs →
        (p.outDir = none → SameResult (run t arguments host) (run t' arguments host)) ∧
        ∀ outDir code code', p.outDir = some outDir → (run t arguments host).exit = .ok code →
          (run t' arguments host).exit = .ok code' →
          SameResult (run t arguments host) (run t' arguments host) ∧
            ∀ i ∈ p.inputs, (run t' arguments host).tree.read (target outDir i.id) =
              (run t arguments host).tree.read (target outDir i.id) := by
  refine ⟨fun source _ hdirectory => ?_, ?_, fun t' hsound' hdistinct' hsame => ?_⟩
  · have hof := modulesOf_of_directory hdirectory
    refine ⟨_, hof, (nodup_modulesBelow hdistinct _).map fun names names' heq => ?_,
      contributes_iff hdirectory hof⟩
    exact append_inj (Prod.mk.inj heq).2
  · rintro ⟨source, hsource, hmodule⟩
    exact run_of_unprepared ho (not_prepared hsound hsource hmodule)
  · have hprepare := prepare_congr hsound hsound' hdistinct hdistinct' hsame
    refine ⟨fun hnot => ?_, fun style jobs p hbuilds hfiles => ?_⟩
    · refine ⟨sameResult_of_not_builds ho hprepare hnot, ?_, ?_⟩
      · exact tree_of_not_builds fun o' style jobs p h => hnot style jobs p (h.eq_options ho ▸ h)
      · refine tree_of_not_builds fun o' style jobs p h => hnot style jobs p ?_
        cases h.eq_options ho
        exact ⟨ho, h.style, h.jobs, hprepare ▸ h.prepared⟩
    · have hbuilds' : Builds t' arguments o style jobs p host :=
        ⟨ho, hbuilds.style, hbuilds.jobs, hprepare ▸ hbuilds.prepared⟩
      refine ⟨fun houtDir => ?_, fun outDir code code' houtDir hexit hexit' => ?_⟩
      · refine sameResult_of_builds hbuilds hbuilds' hprepare hfiles fun ms _ => ?_
        unfold Prepared.writing
        rw [houtDir]
      · exact sameResult_of_written hsound hsound' hbuilds hbuilds' hprepare hfiles houtDir hexit hexit'

end Run

/-- Trees in which the same is named as a module have the same below every directory that both have. -/
theorem node?_of_filter {t t' : Tree}
    (h : (t'.nodes.filter fun e => isModuleName e.1) = t.nodes.filter fun e => isModuleName e.1)
    (trail : Trail) {names : List String} (hname : isModuleName names = true) :
    t'.node? (trail ++ names) = t.node? (trail ++ names) := by
  have hwhole : isModuleName (trail ++ names) = true := by
    unfold isModuleName at hname ⊢
    rcases hlast : names.getLast? with _ | last
    · rw [hlast] at hname
      cases hname
    · rw [hlast] at hname
      rw [List.getLast?_append_of_ne_nil _ (by rintro rfl; cases hlast), hlast]
      exact hname
  have hvalue : valueAt? (trail ++ names) t'.nodes = valueAt? (trail ++ names) t.nodes := by
    have hfilter := congrArg (valueAt? (trail ++ names)) h
    rw [valueAt?_filter hwhole, valueAt?_filter hwhole] at hfilter
    exact hfilter
  unfold Tree.node?
  rw [hvalue]

/-- A listed tree with a module in a directory. -/
def plainTree : Tree := .ofListing ["work"] [("src/a.py", .text "x = 1\n")]

/-- The same tree with a text and an empty directory beside the module. -/
def furnishedTree : Tree :=
  .ofListing ["work"] [("src/a.py", .text "x = 1\n"), ("src/notes.txt", .text "a\n"), ("src/empty", .null)]

/-- The same tree with a directory that is named as a module beside the module. -/
def trickyTree : Tree := .ofListing ["work"] [("src/a.py", .text "x = 1\n"), ("src/x.py", .null)]

/-- What stands beside a module does not count. -/
theorem run_of_modules_furnished :
    plainTree.Sound ∧ plainTree.Distinct ∧ furnishedTree.Sound ∧ furnishedTree.Distinct ∧
      ∃ o, Options.of ["src"] = .ok o ∧ SameInputs plainTree furnishedTree o ∧
        SameResult (run plainTree ["src"]) (run furnishedTree ["src"]) := by
  have hsound : plainTree.Sound := Tree.sound_ofListing (by decide) _
  have hsound' : furnishedTree.Sound := Tree.sound_ofListing (by decide) _
  have hdistinct : plainTree.Distinct := Tree.distinct_ofListing _ _
  have hdistinct' : furnishedTree.Distinct := Tree.distinct_ofListing _ _
  have ho : Options.of ["src"] = .ok { sources := [.ofText "src"] } := ok_of_toOption (by decide +kernel)
  have hsame : SameInputs plainTree furnishedTree { sources := [.ofText "src"] } := by
    refine ⟨by decide +kernel, rfl, ?_, ?_⟩
    · intro settings hsettings path hpath
      cases hsettings
      cases (List.mem_pair.mp hpath).elim id id
      rfl
    · intro source hsource
      rw [List.mem_singleton] at hsource
      rw [hsource]
      exact ⟨by decide +kernel, fun h => absurd h (by decide +kernel), fun _ names hname =>
        node?_of_filter (by decide +kernel) _ hname⟩
  have hcheck : (prepare plainTree { sources := [.ofText "src"] }).2.toOption.map
      (fun p => (p.outDir, p.inputs)) =
        some (none, [⟨"a.py", .ofText "src/a.py", .utf8, "x = 1\n"⟩]) := by decide +kernel
  obtain ⟨p, hp, hprepared⟩ := Option.map_eq_some_iff.mp hcheck
  obtain ⟨houtDir, hinputs⟩ := Prod.mk.inj hprepared
  have hbuilds : Builds plainTree ["src"] { sources := [.ofText "src"] } .rust 1 p :=
    ⟨ho, rfl, rfl, ok_of_toOption hp⟩
  have hfiles : filesNamed furnishedTree p.inputs = filesNamed plainTree p.inputs := by
    rw [hinputs]
    decide +kernel
  obtain ⟨-, -, hruns⟩ := run_of_modules {} hsound hdistinct ho
  exact ⟨hsound, hdistinct, hsound', hdistinct', _, ho, hsame,
    ((hruns furnishedTree hsound' hdistinct' hsame).2 _ _ p hbuilds hfiles).1 houtDir⟩

/-- A directory that is named as a module is taken for one, and keeps a run from building anything. -/
theorem run_tricky :
    HasModuleDirectory trickyTree (.ofText "src") ∧
    modulesOf trickyTree (.ofText "src") =
      .ok [("a.py", .ofText "src/a.py"), ("x.py", .ofText "src/x.py")] ∧
    (run trickyTree ["src"]).exit.toOption = some 2 ∧
    (run trickyTree ["src"]).reports = ["i18nfold: [Errno 21] Is a directory: 'src/x.py'"] ∧
    (run plainTree ["src"]).exit.toOption = some 0 ∧ (run plainTree ["src"]).reports = [] := by
  refine ⟨?_, ?_, ?_, ?_, ?_, ?_⟩
  · exact ⟨by decide +kernel, ["x.py"], by decide, by decide +kernel⟩
  · decide +kernel
  · decide +kernel
  · decide +kernel
  · decide +kernel
  · decide +kernel

end Localize.CommandLine
