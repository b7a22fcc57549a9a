/-
  Modules that are built in a new compilation, none of them with a fault: by one call with some number
  of workers (`buildModules_fresh`), or by a call each (`buildEach_holds`). Each time the modules are
  those of builds on their own, and the windows are in the order of the modules.
-/
import Localize.Proofs.Compilation.Build
import Localize.Proofs.Diagnostic.Order

namespace Localize.Compilation

/-- The sealed window of a build on its own. -/
def sealedWindow (config : Config) (job : String × String) : Window :=
  (written config job.2 { module := job.1 }).close

/-- The modules of builds on their own. -/
def Alone (config : Config) (files : List (String × Text.Bytes)) (jobs : List (String × String))
    (alone : String × String → Module) : Prop :=
  ∀ job ∈ jobs, ∃ body, bodyOf config files job.1 job.2 = .ok body ∧
    alone job = body.withRecords (written config job.2 { module := job.1 })

/-- Builds modules by a call each, up to the first fault. -/
def buildEach (c : Compilation) : List (String × String) → Compilation × Except BuildFault (List Module)
  | [] => (c, .ok [])
  | (id, source) :: rest =>
    match c.buildModule id source with
    | (c, .error f) => (c, .error f)
    | (c, .ok m) =>
      match c.buildEach rest with
      | (c, .ok ms) => (c, .ok (m :: ms))
      | (c, .error f) => (c, .error f)

section InTurn

variable {config : Config} {files : List (String × Text.Bytes)} {alone : String × String → Module}

/-- A compilation whose windows are those of some modules. -/
structure Holds (config : Config) (files : List (String × Text.Bytes)) (ids : List String)
    (ws : List Window) (c : Compilation) : Prop where
  config : c.config = config
  files : c.files = files
  aggregator : c.aggregator = .ofWindows ids ws

/-- A build whose window is new returns the module of a build on its own, and seals the window. -/
theorem build_holds {c : Compilation} {ids : List String} {ws : List Window} {job : String × String}
    {body : Module} (hc : Holds config files ids ws c) (hids : ids.Nodup) {i : Nat}
    (hid : ids[i]? = some job.1) (hwindow : ws[i]? = some { module := job.1 })
    (hbody : bodyOf config files job.1 job.2 = .ok body) :
    Holds config files ids (ws.set i (sealedWindow config job)) (c.build job.1 job.2).1 ∧
      (c.build job.1 job.2).2 = .ok (body.withRecords (written config job.2 { module := job.1 })) := by
  have hw := Aggregator.window_ofWindows ids hwindow
  have hcurrent := Aggregator.current?_ofWindows hids ws hid
  have hopen : c.aggregator.openWindow job.1 = (.ofWindows ids ws, i) := by
    rw [hc.aggregator]
    exact Aggregator.openWindow_of_open hcurrent (by rw [hw])
  have hgiven : i < (Aggregator.ofWindows ids ws).windows.length :=
    (List.getElem?_eq_some_iff.mp hwindow).1
  obtain ⟨events, hrun⟩ := build_run c job.1 job.2 hopen hgiven (by rw [hw])
  rw [hc.config, hc.files, hbody, hw] at hrun
  rw [hrun]
  exact ⟨⟨rfl, rfl, rfl⟩, rfl⟩

/-- The windows when the modules of some jobs are built, and those of others are opened. -/
def halfway (config : Config) (past rest : List (String × String)) : List Window :=
  past.map (sealedWindow config) ++ rest.map fun job => { module := job.1 }

theorem halfway_next (config : Config) (past : List (String × String)) (job : String × String)
    (rest : List (String × String)) :
    (halfway config past (job :: rest))[past.length]? = some { module := job.1 } ∧
      (halfway config past (job :: rest)).set past.length (sealedWindow config job) =
        halfway config (past ++ [job]) rest := by
  unfold halfway
  constructor
  · rw [List.getElem?_append_right (by simp)]
    simp
  · rw [List.set_append_right _ _ (by simp)]
    simp

theorem buildAll_holds (c : Compilation) (begun : String → Bool) (past : List (String × String))
    {rest : List (String × String)}
    (hids : ((past ++ rest).map Prod.fst).Nodup) (halone : Alone config files rest alone)
    (hc : Holds config files ((past ++ rest).map Prod.fst) (halfway config past rest) c) :
    Holds config files ((past ++ rest).map Prod.fst) ((past ++ rest).map (sealedWindow config))
        (c.buildAll begun rest).1 ∧
      (c.buildAll begun rest).2 = .ok (rest.map alone) := by
  induction rest generalizing past c with
  | nil =>
    unfold halfway at hc
    rw [List.map_nil, List.append_nil] at hc
    rw [List.append_nil] at hc ⊢
    exact ⟨hc, rfl⟩
  | cons job rest ih =>
    obtain ⟨body, hbody, heq⟩ := halone job List.mem_cons_self
    obtain ⟨hwindow, hset⟩ := halfway_next config past job rest
    have hid : ((past ++ job :: rest).map Prod.fst)[past.length]? = some job.1 := by simp
    obtain ⟨hc', hresult⟩ := build_holds hc hids hid hwindow hbody
    have hsplit : past ++ job :: rest = (past ++ [job]) ++ rest := by simp
    rw [hset, hsplit] at hc'
    rw [hsplit] at hids
    obtain ⟨hrest, hresults⟩ :=
      ih _ _ hids (fun j hj => halone j (List.mem_cons_of_mem _ hj)) hc'
    rw [← hsplit] at hrest
    unfold buildAll
    rcases hbuild : c.build job.1 job.2 with ⟨c', r⟩
    rw [hbuild] at hresult hrest hresults
    dsimp only at hresult hrest hresults ⊢
    rw [hresult]
    dsimp only
    rcases hothers : c'.buildAll begun rest with ⟨d, rs⟩
    rw [hothers] at hrest hresults
    dsimp only at hrest hresults ⊢
    rw [hresults, List.map_cons, heq]
    exact ⟨hrest, rfl⟩

/-- Modules that are built by one call, with any number of workers. -/
theorem buildModules_fresh {jobs : List (String × String)} (hids : (jobs.map Prod.fst).Nodup)
    (halone : Alone config files jobs alone) (workers : Int) (begun : String → Bool) :
    ((fresh config files).buildModules jobs workers begun).2 = .ok (jobs.map alone) ∧
      ((fresh config files).buildModules jobs workers begun).1.aggregator =
        .ofWindows (jobs.map Prod.fst) (jobs.map (sealedWindow config)) := by
  have hopen : (jobs.map Prod.fst).foldl (fun a id => (a.openWindow id).1)
      (fresh config files).aggregator = .ofWindows (jobs.map Prod.fst) (halfway config [] jobs) := by
    refine (Aggregator.foldl_openWindow hids).trans ?_
    unfold halfway
    rw [List.map_nil, List.nil_append, List.map_map]
    rfl
  have hbuilt := buildAll_holds { fresh config files with
      aggregator := .ofWindows (jobs.map Prod.fst) (halfway config [] jobs) }
    (fun id => !inTurn jobs workers && begun id) [] hids halone ⟨rfl, rfl, rfl⟩
  unfold buildModules
  dsimp only
  rw [foldl_openWindow_fst, hopen]
  generalize buildAll _ _ jobs = built at hbuilt ⊢
  obtain ⟨hholds, hresult⟩ := hbuilt
  rcases built with ⟨c', r⟩
  dsimp only at hholds hresult
  subst hresult
  refine ⟨rfl, ?_⟩
  dsimp only
  rw [foldl_store]
  exact hholds.aggregator

/-- One more module, whose name is new, built by a call of its own. -/
theorem buildModule_holds {c : Compilation} {past : List (String × String)} {job : String × String}
    {body : Module} (hids : ((past ++ [job]).map Prod.fst).Nodup)
    (hc : Holds config files (past.map Prod.fst) (past.map (sealedWindow config)) c)
    (hbody : bodyOf config files job.1 job.2 = .ok body) :
    Holds config files ((past ++ [job]).map Prod.fst) ((past ++ [job]).map (sealedWindow config))
        (c.buildModule job.1 job.2).1 ∧
      (c.buildModule job.1 job.2).2 =
        .ok (body.withRecords (written config job.2 { module := job.1 })) := by
  have hnew : job.1 ∉ past.map Prod.fst := by
    rw [List.map_append, List.nodup_append] at hids
    exact fun hmem => hids.2.2 _ hmem job.1 (List.mem_singleton_self _) rfl
  have hopen : (c.aggregator.openWindow job.1).1 =
      .ofWindows ((past ++ [job]).map Prod.fst) (halfway config past [job]) := by
    rw [hc.aggregator, Aggregator.openWindow_ofWindows (by simp) hnew, List.map_append]
    rfl
  obtain ⟨hwindow, hset⟩ := halfway_next config past job []
  have hid : ((past ++ [job]).map Prod.fst)[past.length]? = some job.1 := by simp
  have hc' : Holds config files ((past ++ [job]).map Prod.fst) (halfway config past [job])
      { c with aggregator := (c.aggregator.openWindow job.1).1 } := ⟨hc.config, hc.files, hopen⟩
  obtain ⟨hholds, hresult⟩ := build_holds hc' hids hid hwindow hbody
  unfold halfway at hset
  rw [List.map_nil, List.append_nil] at hset
  unfold halfway at hholds
  rw [hset] at hholds
  unfold buildModule
  dsimp only
  rcases hbuild : build { c with aggregator := (c.aggregator.openWindow job.1).1 } job.1 job.2
    with ⟨c', r⟩
  rw [hbuild] at hholds hresult
  dsimp only at hholds hresult
  rw [hresult]
  exact ⟨⟨hholds.config, hholds.files, hholds.aggregator⟩, rfl⟩

theorem buildEach_holds (c : Compilation) (past : List (String × String))
    {rest : List (String × String)}
    (hids : ((past ++ rest).map Prod.fst).Nodup) (halone : Alone config files rest alone)
    (hc : Holds config files (past.map Prod.fst) (past.map (sealedWindow config)) c) :
    Holds config files ((past ++ rest).map Prod.fst) ((past ++ rest).map (sealedWindow config))
        (c.buildEach rest).1 ∧
      (c.buildEach rest).2 = .ok (rest.map alone) := by
  induction rest generalizing past c with
  | nil =>
    rw [List.append_nil]
    exact ⟨hc, rfl⟩
  | cons job rest ih =>
    obtain ⟨body, hbody, heq⟩ := halone job List.mem_cons_self
    have hsplit : past ++ job :: rest = (past ++ [job]) ++ rest := by simp
    rw [hsplit] at hids ⊢
    have hids' : ((past ++ [job]).map Prod.fst).Nodup := by
      rw [List.map_append] at hids
      exact hids.of_append_left
    obtain ⟨hc', hresult⟩ := buildModule_holds hids' hc hbody
    obtain ⟨hrest, hresults⟩ :=
      ih _ _ hids (fun j hj => halone j (List.mem_cons_of_mem _ hj)) hc'
    unfold buildEach
    rcases hbuild : c.buildModule job.1 job.2 with ⟨c', r⟩
    rw [hbuild] at hresult hrest hresults
    dsimp only at hresult hrest hresults ⊢
    rw [hresult]
    dsimp only
    rcases heach : c'.buildEach rest with ⟨d, rs⟩
    rw [heach] at hrest hresults
    dsimp only at hrest hresults ⊢
    rw [hresults, List.map_cons, heq]
    exact ⟨hrest, rfl⟩

end InTurn

end Localize.Compilation
