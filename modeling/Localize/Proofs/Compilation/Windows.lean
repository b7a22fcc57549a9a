/-
  What builds leave of the windows. A build changes nothing but the window of its own module: it
  leaves that window open if it fails, and seals it with the records of the module if it returns
  (`build_done`). `Done` says the same of several builds, up to the first fault and whatever has begun
  by then, or up to the last source (`buildAll_done`). So a call that returns has sealed the window of
  each module that it was given, and one that fails has stored nothing (`run_done`). It returns just if
  each source has a body (`exists_run_iff`).
-/
import Localize.Proofs.Compilation.Body
import Localize.Proofs.Compilation.History
import Localize.Proofs.Diagnostic.Ledger
import Localize.Proofs.Pairs

namespace Localize

/-! ## The window of one module among those of others -/

namespace Aggregator

/-- A module has a window that can be written to. -/
def IsOpen (a : Aggregator) (module : String) : Prop :=
  ∃ w, a.window? module = some w ∧ w.isSealed = false

/-- The window of a module is sealed, with the records that the module has. -/
def Seals (a : Aggregator) (m : Module) : Prop :=
  ∃ w, a.window? m.id = some w ∧ w.isSealed = true ∧ w.warnings = m.warnings ∧ w.errors = m.errors

section Window

variable {a : Aggregator} {module other : String}

theorem window?_of_current {n : Nat} (h : a.current? module = some n) :
    a.window? module = some (a.window n) := by
  unfold window?
  rw [h]
  rfl

theorem contains_iff : a.contains module = true ↔ ∃ w, a.window? module = some w := by
  unfold contains window?
  rcases a.current? module with _ | n
  · exact ⟨nofun, nofun⟩
  · exact ⟨fun _ => ⟨_, rfl⟩, fun _ => rfl⟩

theorem window?_renew (h : a.Sound) (hne : other ≠ module) :
    (a.renew module).1.window? other = a.window? other := by
  unfold window?
  rw [current?_renew, if_neg hne]
  rcases hn : a.current? other with _ | n
  · rfl
  · exact congrArg some (window_renew_old (h.given _ (mem_of_current? hn)) module)

/-- Opening a window makes no difference to other modules. -/
theorem window?_openWindow (h : a.Sound) (hne : other ≠ module) :
    (a.openWindow module).1.window? other = a.window? other := by
  unfold openWindow
  rcases a.current? module with _ | n
  · exact window?_renew h hne
  · dsimp only
    split
    · exact window?_renew h hne
    · rfl

theorem window?_put_self {n : Nat} (h : a.Sound) (hn : a.current? module = some n) (w : Window) :
    (a.put n w).window? module = some w := by
  rw [window?_of_current ((current?_put a n w module).trans hn),
    window_put (h.given _ (mem_of_current? hn)), if_pos rfl]

/-- A window that is put in place makes no difference to other modules. -/
theorem window?_put_other {n : Nat} (h : a.Sound) (hn : a.current? module = some n) (w : Window)
    (hne : other ≠ module) : (a.put n w).window? other = a.window? other := by
  unfold window?
  rw [current?_put]
  rcases hk : a.current? other with _ | k
  · rfl
  · have hnk : ¬ n = k := by
      rintro rfl
      have hown := h.own _ (mem_of_current? hk)
      rw [h.own _ (mem_of_current? hn)] at hown
      exact hne hown.symm
    rw [Option.map_some, Option.map_some, window_put (h.given _ (mem_of_current? hn)), if_neg hnk]

theorem Opened.window? {b : Aggregator} {n : Nat} (h : Opened a module b n) :
    b.window? module = some (b.window n) := window?_of_current h.current

theorem Opened.isOpen_window {b : Aggregator} {n : Nat} (h : Opened a module b n) : b.IsOpen module :=
  ⟨_, h.window?, h.isOpen⟩

/-- A window that is open stays open when any window is opened. -/
theorem IsOpen.openWindow (h : a.Sound) (hopen : a.IsOpen other) (module : String) :
    (a.openWindow module).1.IsOpen other := by
  by_cases hne : other = module
  · rw [hne]
    exact (openWindow_opened h module).isOpen_window
  · unfold IsOpen
    rw [window?_openWindow h hne]
    exact hopen

/-- Opening a window keeps all windows apart. -/
theorem Tidy.openWindow (h : a.Tidy) (module : String) : (a.openWindow module).1.Tidy := by
  unfold Aggregator.openWindow
  rcases hn : a.current? module with _ | n
  · exact h.renew fun id hid => by rw [hn] at hid; cases hid
  · dsimp only
    split
    · rename_i hsealed
      refine h.renew fun id hid => ?_
      rw [hn] at hid
      cases hid
      exact hsealed
    · exact h

end Window

end Aggregator

namespace Compilation

/-! ## One build -/

/-- A compilation that came from another one by builds of certain modules: only the windows of these
may have changed, and nothing is stored. -/
structure Keeps (c c' : Compilation) (ids : List String) : Prop where
  config : c'.config = c.config
  files : c'.files = c.files
  modules : c'.modules = c.modules
  tidy : c'.aggregator.Tidy
  others : ∀ id ∉ ids, c'.aggregator.window? id = c.aggregator.window? id

theorem Keeps.refl {c : Compilation} (h : c.aggregator.Tidy) (ids : List String) : Keeps c c ids :=
  ⟨rfl, rfl, rfl, h, fun _ _ => rfl⟩

theorem Keeps.trans {c c' c'' : Compilation} {ids ids' : List String} (h : Keeps c c' ids)
    (h' : Keeps c' c'' ids') : Keeps c c'' (ids ++ ids') where
  config := h'.config.trans h.config
  files := h'.files.trans h.files
  modules := h'.modules.trans h.modules
  tidy := h'.tidy
  others := by
    intro id hid
    rw [List.mem_append, not_or] at hid
    exact (h'.others id hid.2).trans (h.others id hid.1)

theorem Keeps.mono {c c' : Compilation} {ids ids' : List String} (h : Keeps c c' ids)
    (hids : ids ⊆ ids') : Keeps c c' ids' where
  config := h.config
  files := h.files
  modules := h.modules
  tidy := h.tidy
  others := fun id hid => h.others id fun hmem => hid (hids hmem)

theorem Keeps.isOpen {c c' : Compilation} {ids : List String} {id : String} (h : Keeps c c' ids)
    (hid : id ∉ ids) (hopen : c.aggregator.IsOpen id) : c'.aggregator.IsOpen id := by
  unfold Aggregator.IsOpen
  rw [h.others id hid]
  exact hopen

/-- The module of a name and a source, as a compilation has built it: its window is sealed. -/
structure Built (c : Compilation) (job : String × String) (m : Module) : Prop where
  id : m.id = job.1
  body : ∃ body w, bodyOf c.config c.files job.1 job.2 = .ok body ∧ m = body.withRecords w
  seals : c.aggregator.Seals m

theorem Built.keep {c c' : Compilation} {ids : List String} {job : String × String} {m : Module}
    (h : Keeps c c' ids) (hid : job.1 ∉ ids) (hbuilt : Built c job m) : Built c' job m where
  id := hbuilt.id
  body := by
    rw [h.config, h.files]
    exact hbuilt.body
  seals := by
    unfold Aggregator.Seals
    rw [h.others _ (hbuilt.id ▸ hid)]
    exact hbuilt.seals

theorem Built.isBody {c : Compilation} {job : String × String} {m : Module} (h : Built c job m) :
    ∃ (body : Module) (w : Window), body.IsBody job.1 job.2 ∧ m = body.withRecords w := by
  obtain ⟨body, w, hbody, hm⟩ := h.body
  exact ⟨body, w, .of_bodyOf hbody, hm⟩

/-- What builds of some sources have come to: what they leave, and their result. -/
structure Done (c : Compilation) (jobs : List (String × String)) (c' : Compilation)
    (result : Except BuildFault (List Module)) : Prop where
  keeps : Keeps c c' (jobs.map Prod.fst)
  built : ∀ ms, result = .ok ms → List.Forall₂ (Built c') jobs ms
  faulty : ∀ f, result = .error f → ∃ job ∈ jobs, bodyOf c.config c.files job.1 job.2 = .error f
  /-- What could not be built is left open. -/
  unsealed : ∀ job ∈ jobs, (bodyOf c.config c.files job.1 job.2).isOk = false →
    c'.aggregator.IsOpen job.1

section Build

variable {c : Compilation}

/-- One build: it changes only the window of its module, which it seals if it returns. -/
theorem build_done (h : c.aggregator.Tidy) (job : String × String) :
    Keeps c (c.build job.1 job.2).1 [job.1] ∧
      match (c.build job.1 job.2).2 with
      | .ok m => Built (c.build job.1 job.2).1 job m
      | .error f => bodyOf c.config c.files job.1 job.2 = .error f ∧
          (c.build job.1 job.2).1.aggregator.IsOpen job.1 := by
  obtain ⟨id, source⟩ := job
  have hopened := Aggregator.openWindow_opened h.sound id
  have htidy := h.openWindow id
  have hframe := fun other (hne : other ≠ id) => Aggregator.window?_openWindow h.sound hne
  rcases hopen : c.aggregator.openWindow id with ⟨b, n⟩
  rw [hopen] at hopened htidy hframe
  dsimp only at hopened htidy hframe
  obtain ⟨events, hrun⟩ := build_run c id source hopen hopened.given hopened.isOpen
  have hmodule : (written c.config source (b.window n)).module = id :=
    (Window.module_recordAll _ _).trans hopened.own
  have hproper : (written c.config source (b.window n)).Proper := hopened.proper.recordAll _
  have hothers : ∀ w : Window, ∀ other ∉ [id], (b.put n w).window? other =
      c.aggregator.window? other := by
    intro w other hother
    have hne := List.ne_of_not_mem_cons hother
    exact (Aggregator.window?_put_other hopened.sound hopened.current w hne).trans (hframe other hne)
  have hself := Aggregator.window?_put_self hopened.sound hopened.current
  dsimp only
  rw [hrun]
  rcases hbody : bodyOf c.config c.files id source with f | body
  · have hkept := htidy.put hopened.current hmodule hproper
    exact ⟨⟨rfl, rfl, rfl, hkept, hothers _⟩, rfl, _, hself _,
      (Window.isSealed_recordAll _ _).trans hopened.isOpen⟩
  · have hkept := htidy.put hopened.current (w := (written c.config source (b.window n)).close)
      hmodule hproper.close
    have hid : body.id = id := (Module.IsBody.of_bodyOf hbody).id
    refine ⟨⟨rfl, rfl, rfl, hkept, hothers _⟩, hid, ⟨body, _, hbody, rfl⟩, ?_⟩
    refine ⟨(written c.config source (b.window n)).close, ?_, rfl, rfl, rfl⟩
    show (b.put n _).window? body.id = _
    rw [hid]
    exact hself _

end Build

/-! ## Several builds -/

section Several

variable {c : Compilation} {job : String × String} {rest : List (String × String)}

theorem done_nil (h : c.aggregator.Tidy) : Done c [] c (.ok []) :=
  ⟨.refl h [], fun ms hms => by cases hms; exact .nil, nofun, nofun⟩

/-- A source whose build fails, in front of others, whatever becomes of these. -/
theorem Done.of_error {c' c'' : Compilation} {f : BuildFault}
    (hids : ((job :: rest).map Prod.fst).Nodup) (hkeeps : Keeps c c' [job.1])
    (hbody : bodyOf c.config c.files job.1 job.2 = .error f) (hopen : c'.aggregator.IsOpen job.1)
    (hkeeps' : Keeps c' c'' (rest.map Prod.fst))
    (hunsealed : ∀ job ∈ rest, (bodyOf c'.config c'.files job.1 job.2).isOk = false →
      c''.aggregator.IsOpen job.1) : Done c (job :: rest) c'' (.error f) where
  keeps := hkeeps.trans hkeeps'
  built := nofun
  faulty := by
    intro f' hf
    cases hf
    exact ⟨job, List.mem_cons_self, hbody⟩
  unsealed := by
    have hnot : job.1 ∉ rest.map Prod.fst := (List.nodup_cons.mp hids).1
    intro job' hmem hfails
    rcases List.mem_cons.mp hmem with rfl | hmem
    · exact hkeeps'.isOpen hnot hopen
    · rw [← hkeeps.config, ← hkeeps.files] at hfails
      exact hunsealed job' hmem hfails

/-- A source whose build returns, in front of others with what they come to. -/
theorem Done.of_ok {c' c'' : Compilation} {m : Module} {result : Except BuildFault (List Module)}
    (hids : ((job :: rest).map Prod.fst).Nodup) (hkeeps : Keeps c c' [job.1])
    (hbuilt : Built c' job m) (hrest : Done c' rest c'' result) :
    Done c (job :: rest) c'' (result.map (m :: ·)) where
  keeps := hkeeps.trans hrest.keeps
  built := by
    have hnot : job.1 ∉ rest.map Prod.fst := (List.nodup_cons.mp hids).1
    intro ms hms
    rcases result with f | ms'
    · cases hms
    · cases hms
      exact .cons (hbuilt.keep hrest.keeps hnot) (hrest.built ms' rfl)
  faulty := by
    intro f hf
    rcases result with f' | ms
    · cases hf
      obtain ⟨job', hmem, hfails⟩ := hrest.faulty f rfl
      rw [hkeeps.config, hkeeps.files] at hfails
      exact ⟨job', List.mem_cons_of_mem _ hmem, hfails⟩
    · cases hf
  unsealed := by
    intro job' hmem hfails
    rcases List.mem_cons.mp hmem with rfl | hmem
    · obtain ⟨body, w, hbody, -⟩ := hbuilt.body
      rw [hkeeps.config, hkeeps.files] at hbody
      rw [hbody] at hfails
      cases hfails
    · rw [← hkeeps.config, ← hkeeps.files] at hfails
      exact hrest.unsealed job' hmem hfails

end Several

section Builds

variable {c : Compilation} {jobs : List (String × String)}

/-- Builds of which nobody asks what they come to. -/
theorem finish_keeps (h : c.aggregator.Tidy) (jobs : List (String × String)) :
    Keeps c (c.finish jobs) (jobs.map Prod.fst) := by
  unfold finish
  induction jobs generalizing c with
  | nil => exact .refl h []
  | cons job rest ih =>
    obtain ⟨hkeeps, -⟩ := build_done h job
    exact hkeeps.trans (ih hkeeps.tidy)

theorem finish_unsealed (h : c.aggregator.Tidy) (hids : (jobs.map Prod.fst).Nodup) :
    ∀ job ∈ jobs, (bodyOf c.config c.files job.1 job.2).isOk = false →
      (c.finish jobs).aggregator.IsOpen job.1 := by
  induction jobs generalizing c with
  | nil => exact nofun
  | cons first rest ih =>
    obtain ⟨hkeeps, hresult⟩ := build_done h first
    obtain ⟨hfirst, hrest⟩ := List.nodup_cons.mp hids
    intro job hjob hfails
    show ((c.build first.1 first.2).1.finish rest).aggregator.IsOpen job.1
    rcases List.mem_cons.mp hjob with rfl | hjob
    · refine (finish_keeps hkeeps.tidy rest).isOpen hfirst ?_
      rcases hbuild : (c.build job.1 job.2).2 with f | m
      · rw [hbuild] at hresult
        exact hresult.2
      · rw [hbuild] at hresult
        obtain ⟨body, w, hbody, -⟩ := hresult.body
        rw [hkeeps.config, hkeeps.files] at hbody
        rw [hbody] at hfails
        cases hfails
    · rw [← hkeeps.config, ← hkeeps.files] at hfails
      exact ih hkeeps.tidy hrest job hjob hfails

/-- Builds of several modules, with all windows open at the beginning, whatever has begun at a fault. -/
theorem buildAll_done (h : c.aggregator.Tidy) (hids : (jobs.map Prod.fst).Nodup)
    (hopen : ∀ job ∈ jobs, c.aggregator.IsOpen job.1) (begun : String → Bool) :
    Done c jobs (c.buildAll begun jobs).1 (c.buildAll begun jobs).2 := by
  induction jobs generalizing c with
  | nil => exact done_nil h
  | cons job rest ih =>
    obtain ⟨hkeeps, hresult⟩ := build_done h job
    have hrestIds := (List.nodup_cons.mp hids).2
    have hnot : ∀ other ∈ rest, other.1 ∉ [job.1] := by
      intro other hmem hother
      rw [List.map_cons, List.nodup_cons] at hids
      exact hids.1 (List.mem_singleton.mp hother ▸ List.mem_map_of_mem hmem)
    have hstill := fun other (hmem : other ∈ rest) =>
      hkeeps.isOpen (hnot other hmem) (hopen other (List.mem_cons_of_mem _ hmem))
    unfold buildAll
    rcases hbuild : c.build job.1 job.2 with ⟨c', f | m⟩
    · rw [hbuild] at hkeeps hresult hstill
      have hfinish := finish_keeps hkeeps.tidy (rest.filter (begun ·.1))
      refine .of_error hids hkeeps hresult.1 hresult.2
        (hfinish.mono (List.map_subset _ (List.filter_subset_self _))) fun other hmem hfails => ?_
      by_cases hbegun : begun other.1 = true
      · refine finish_unsealed hkeeps.tidy ?_ other (List.mem_filter.mpr ⟨hmem, hbegun⟩) hfails
        exact hrestIds.sublist (List.filter_sublist.map _)
      -- What has not begun keeps the window that was opened for it.
      · refine hfinish.isOpen (fun hother => ?_) (hstill other hmem)
        obtain ⟨begunJob, hbegunJob, hsame⟩ := List.mem_map.mp hother
        exact hbegun (hsame ▸ (List.mem_filter.mp hbegunJob).2)
    · rw [hbuild] at hkeeps hresult hstill
      have hrest := ih hkeeps.tidy hrestIds hstill
      dsimp only at hkeeps hresult ⊢
      rcases hothers : c'.buildAll begun rest with ⟨c'', f | ms⟩
      · rw [hothers] at hrest
        exact .of_ok hids hkeeps hresult hrest
      · rw [hothers] at hrest
        exact .of_ok hids hkeeps hresult hrest

/-- Windows that are opened one after the other. -/
theorem openAll_keeps (h : c.aggregator.Tidy) (ids : List String) :
    Keeps c { c with aggregator := ids.foldl (fun a id => (a.openWindow id).1) c.aggregator } ids ∧
      ∀ id, id ∈ ids ∨ c.aggregator.IsOpen id →
        (ids.foldl (fun a id => (a.openWindow id).1) c.aggregator).IsOpen id := by
  induction ids generalizing c with
  | nil => exact ⟨.refl h [], fun id hid => hid.resolve_left List.not_mem_nil⟩
  | cons first rest ih =>
    have hfirst : Keeps c { c with aggregator := (c.aggregator.openWindow first).1 } [first] :=
      ⟨rfl, rfl, rfl, h.openWindow first, fun other hother =>
        Aggregator.window?_openWindow h.sound (List.ne_of_not_mem_cons hother)⟩
    obtain ⟨hkeeps, hopen⟩ := ih hfirst.tidy
    refine ⟨hfirst.trans hkeeps, fun id hid => hopen id ?_⟩
    rcases hid with hid | hid
    · rcases List.mem_cons.mp hid with rfl | hid
      · exact .inr (Aggregator.openWindow_opened h.sound id).isOpen_window
      · exact .inl hid
    · exact .inr (hid.openWindow h.sound first)

/-- What builds come to counts from before the opening of their windows. -/
theorem Done.of_keeps {c' : Compilation} {result : Except BuildFault (List Module)} {d : Compilation}
    (hkeeps : Keeps c d (jobs.map Prod.fst)) (h : Done d jobs c' result) : Done c jobs c' result where
  keeps := (hkeeps.trans h.keeps).mono fun _ hid => (List.mem_append.mp hid).elim id id
  built := h.built
  faulty := by
    rw [← hkeeps.config, ← hkeeps.files]
    exact h.faulty
  unsealed := by
    rw [← hkeeps.config, ← hkeeps.files]
    exact h.unsealed

/-- The events and the table of modules do not count, as long as nothing is stored. -/
theorem Done.congr {d d' : Compilation} {result : Except BuildFault (List Module)}
    (h : Done c jobs d result) (hconfig : d'.config = d.config) (hfiles : d'.files = d.files)
    (haggregator : d'.aggregator = d.aggregator) (hmodules : d'.modules = c.modules) :
    Done c jobs d' result where
  keeps := {
    config := hconfig.trans h.keeps.config
    files := hfiles.trans h.keeps.files
    modules := hmodules
    tidy := haggregator ▸ h.keeps.tidy
    others := haggregator ▸ h.keeps.others }
  built := fun ms hms => (h.built ms hms).imp fun job m hm => {
    id := hm.id
    body := by
      rw [hconfig, hfiles]
      exact hm.body
    seals := haggregator ▸ hm.seals }
  faulty := h.faulty
  unsealed := haggregator ▸ h.unsealed

end Builds

/-! ## Calls -/

section Call

variable {c : Compilation}

theorem buildModules_done (h : c.aggregator.Tidy) {jobs : List (String × String)}
    (hids : (jobs.map Prod.fst).Nodup) (workers : Int) (begun : String → Bool) :
    Done c jobs { (c.buildModules jobs workers begun).1 with modules := c.modules }
        (c.buildModules jobs workers begun).2 ∧
      (c.buildModules jobs workers begun).1.modules =
        stored c.modules (c.buildModules jobs workers begun).2 := by
  obtain ⟨hkeeps, hopen⟩ := openAll_keeps h (jobs.map Prod.fst)
  have hdone := (buildAll_done hkeeps.tidy hids (fun job hjob =>
    hopen job.1 (.inl (List.mem_map_of_mem hjob)))
    fun id => !inTurn jobs workers && begun id).of_keeps hkeeps
  unfold buildModules
  dsimp only
  rw [foldl_openWindow_fst]
  generalize buildAll _ _ jobs = built at hdone ⊢
  rcases built with ⟨d, f | ms⟩
  · exact ⟨hdone.congr rfl rfl rfl rfl, hdone.keeps.modules⟩
  · dsimp only at hdone ⊢
    rw [foldl_store]
    refine ⟨hdone.congr rfl rfl rfl rfl, ?_⟩
    dsimp only
    rw [hdone.keeps.modules]

/-- What a call comes to: its builds are done, and what they return is stored. -/
theorem run_done (h : c.aggregator.Tidy) {call : Call} (hids : (call.sources.map Prod.fst).Nodup) :
    Done c call.sources { (call.run c).1 with modules := c.modules } (call.run c).2 ∧
      (call.run c).1.modules = stored c.modules (call.run c).2 := by
  cases call with
  | one id source =>
    obtain ⟨hkeeps, hopen⟩ := openAll_keeps h [id]
    have hone : ([(id, source)].map Prod.fst).Nodup := hids
    have hdone := (buildAll_done hkeeps.tidy hone (fun job hjob =>
      hopen job.1 (.inl (List.mem_map_of_mem hjob))) fun _ => false).of_keeps hkeeps
    unfold Call.run buildModule
    unfold buildAll buildAll at hdone
    dsimp only [List.foldl, List.filter, finish] at hdone ⊢
    rcases hbuild : build { c with aggregator := (c.aggregator.openWindow id).1 } id source with
      ⟨c', f | m⟩
    · rw [hbuild] at hdone
      exact ⟨hdone.congr rfl rfl rfl rfl, hdone.keeps.modules⟩
    · rw [hbuild] at hdone
      refine ⟨hdone.congr rfl rfl rfl rfl, ?_⟩
      exact congrArg (setEntry m.id m) hdone.keeps.modules
  | many jobs workers begun => exact buildModules_done h hids workers begun

/-- A call returns just if each of its sources has a body. -/
theorem exists_run_iff (h : c.aggregator.Tidy) {call : Call}
    (hids : (call.sources.map Prod.fst).Nodup) :
    (∃ ms, (call.run c).2 = .ok ms) ↔
      ∀ job ∈ call.sources, ∃ m, bodyOf c.config c.files job.1 job.2 = .ok m := by
  have hdone := (run_done h hids).1
  constructor
  · rintro ⟨ms, hms⟩ job hjob
    obtain ⟨m, -, hm⟩ := exists_of_mem_forall₂ (hdone.built ms hms) hjob
    obtain ⟨body, -, hbody, -⟩ := hm.body
    rw [hdone.keeps.config, hdone.keeps.files] at hbody
    exact ⟨body, hbody⟩
  · intro hbodies
    rcases hrun : (call.run c).2 with f | ms
    · obtain ⟨job, hjob, hfails⟩ := hdone.faulty f hrun
      obtain ⟨m, hm⟩ := hbodies job hjob
      cases hm.symm.trans hfails
    · exact ⟨ms, rfl⟩

end Call

end Compilation

end Localize
