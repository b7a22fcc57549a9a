/-
  Modules that are built together. A schedule is a list of workers, each of which takes one step when
  its turn comes, so it stands for any interleaving by any number of threads. `run_eq` gives the state
  after a schedule in closed form: it depends on nothing but how many steps each worker has taken.
  Hence all schedules that let every worker come to its end leave the same windows and the same
  modules, which are those of builds in turn, together and in compilations of their own
  (`run_finished`).
-/
import Localize.Proofs.Compilation.Worker
import Mathlib.Data.List.Forall2
import Mathlib.Logic.Function.Basic

namespace Localize

open Compilation

/-! ## Schedules -/

/-- Workers that share the windows of their modules. -/
structure Pool where
  aggregator : Aggregator
  stages : List Stage

namespace Pool

/-- The windows of all modules are opened before any worker begins. -/
def start (jobs : List (String × String)) : Pool where
  aggregator := (jobs.map Prod.fst).foldl (fun a id => (a.openWindow id).1) {}
  stages := jobs.map fun _ => .waiting

/-- One step of a worker. -/
def step (config : Config) (files : List (String × Text.Bytes)) (jobs : List (String × String))
    (p : Pool) (i : Nat) : Pool :=
  match jobs[i]?, p.stages[i]? with
  | some job, some stage =>
    let (a, stage) := stage.advance config files job p.aggregator
    ⟨a, p.stages.set i stage⟩
  | _, _ => p

/-- The workers after a schedule, which names the worker of each step. -/
def run (config : Config) (files : List (String × Text.Bytes)) (jobs : List (String × String))
    (schedule : List Nat) : Pool :=
  schedule.foldl (step config files jobs) (start jobs)

/-- All workers have returned their modules. -/
def Finished (p : Pool) : Prop := ∀ stage ∈ p.stages, stage.module?.isSome

/-- The workers when each has taken a number of steps; `alone` gives the modules they return. -/
def reached (config : Config) (jobs : List (String × String)) (alone : String × String → Module)
    (steps : Nat → Nat) : Pool where
  aggregator := .ofWindows (jobs.map Prod.fst)
    (jobs.mapIdx fun i job => windowAfter config job (steps i))
  stages := jobs.mapIdx fun i job => stageAfter config job i (alone job) (steps i)

/-- The workers when all have returned their modules. -/
def done (config : Config) (jobs : List (String × String)) (alone : String × String → Module) :
    Pool where
  aggregator := .ofWindows (jobs.map Prod.fst)
    (jobs.map (sealedWindow config))
  stages := jobs.map fun job => .ended (alone job)

theorem set_mapIdx {α β : Type} {xs : List α} {f : Nat → α → β} (g : Nat → α → β) {i : Nat} {x : α}
    (hx : xs[i]? = some x) (hfg : ∀ j, j ≠ i → f j = g j) :
    (xs.mapIdx f).set i (g i x) = xs.mapIdx g := by
  refine List.ext_getElem? fun j => ?_
  rw [List.getElem?_set, List.getElem?_mapIdx, List.getElem?_mapIdx, List.length_mapIdx]
  by_cases hij : i = j
  · have hlt : i < xs.length := (List.getElem?_eq_some_iff.mp hx).1
    rw [if_pos hij, if_pos hlt, ← hij, hx]
    rfl
  · rw [if_neg hij, hfg j fun hji => hij hji.symm]

theorem mapIdx_congr {α β : Type} {xs : List α} {f g : Nat → α → β}
    (h : ∀ i x, xs[i]? = some x → f i x = g i x) : xs.mapIdx f = xs.mapIdx g := by
  refine List.ext_getElem? fun i => ?_
  rw [List.getElem?_mapIdx, List.getElem?_mapIdx]
  rcases hx : xs[i]? with _ | x
  · rfl
  · exact congrArg some (h i x hx)

theorem mapIdx_eq_map {α β : Type} {xs : List α} {f : Nat → α → β} {g : α → β}
    (h : ∀ i x, xs[i]? = some x → f i x = g x) : xs.mapIdx f = xs.map g := by
  refine List.ext_getElem? fun i => ?_
  rw [List.getElem?_mapIdx, List.getElem?_map]
  rcases hx : xs[i]? with _ | x
  · rfl
  · exact congrArg some (h i x hx)

section Schedules

variable {config : Config} {files : List (String × Text.Bytes)} {jobs : List (String × String)}
  {alone : String × String → Module}

theorem start_eq (config : Config) (hids : (jobs.map Prod.fst).Nodup)
    (alone : String × String → Module) : start jobs = reached config jobs alone fun _ => 0 := by
  have hwindows : (jobs.mapIdx fun _ job => windowAfter config job 0) =
      (jobs.map Prod.fst).map fun id => { module := id } := by
    rw [List.map_map]
    exact mapIdx_eq_map fun _ job _ => windowAfter_of_lt (Nat.succ_pos _)
  have hstages : (jobs.mapIdx fun i job => stageAfter config job i (alone job) 0) =
      jobs.map fun _ => .waiting := mapIdx_eq_map fun _ _ _ => rfl
  unfold start reached
  rw [Aggregator.foldl_openWindow hids, hwindows, hstages]

theorem stages_reached (steps : Nat → Nat) (i : Nat) :
    (reached config jobs alone steps).stages[i]? =
      jobs[i]?.map fun job => stageAfter config job i (alone job) (steps i) :=
  List.getElem?_mapIdx

theorem window_reached (steps : Nat → Nat) {i : Nat} {job : String × String}
    (hjob : jobs[i]? = some job) :
    (reached config jobs alone steps).aggregator.window i = windowAfter config job (steps i) := by
  refine Aggregator.window_ofWindows _ ?_
  rw [List.getElem?_mapIdx, hjob]
  rfl

/-- Where the workers are depends on the steps of those that have a job. -/
theorem reached_congr {steps steps' : Nat → Nat}
    (h : ∀ j job, jobs[j]? = some job → steps j = steps' j) :
    reached config jobs alone steps = reached config jobs alone steps' := by
  have hwindows : (jobs.mapIdx fun j job => windowAfter config job (steps j)) =
      jobs.mapIdx fun j job => windowAfter config job (steps' j) :=
    mapIdx_congr fun j job hj => by rw [h j job hj]
  have hstages : (jobs.mapIdx fun j job => stageAfter config job j (alone job) (steps j)) =
      jobs.mapIdx fun j job => stageAfter config job j (alone job) (steps' j) :=
    mapIdx_congr fun j job hj => by rw [h j job hj]
  unfold reached
  rw [hwindows, hstages]

/-- The workers when the steps of one of them have changed. -/
theorem reached_set {steps steps' : Nat → Nat} {i : Nat} {job : String × String}
    (hjob : jobs[i]? = some job) (hothers : ∀ j, j ≠ i → steps j = steps' j) :
    reached config jobs alone steps' =
      ⟨(reached config jobs alone steps).aggregator.put i (windowAfter config job (steps' i)),
        (reached config jobs alone steps).stages.set i
          (stageAfter config job i (alone job) (steps' i))⟩ := by
  have hwindows : (jobs.mapIdx fun j job => windowAfter config job (steps j)).set i
        (windowAfter config job (steps' i)) =
      jobs.mapIdx fun j job => windowAfter config job (steps' j) :=
    set_mapIdx (fun j job => windowAfter config job (steps' j)) hjob
      fun j hj => by rw [hothers j hj]
  have hstages : (jobs.mapIdx fun j job => stageAfter config job j (alone job) (steps j)).set i
        (stageAfter config job i (alone job) (steps' i)) =
      jobs.mapIdx fun j job => stageAfter config job j (alone job) (steps' j) :=
    set_mapIdx (fun j job => stageAfter config job j (alone job) (steps' j)) hjob
      fun j hj => by rw [hothers j hj]
  unfold reached
  dsimp only
  rw [Aggregator.put_ofWindows, hwindows, hstages]

/-- A step changes the window and the stage of its worker only. -/
theorem step_reached (hids : (jobs.map Prod.fst).Nodup) (halone : Alone config files jobs alone)
    (steps : Nat → Nat) (i : Nat) :
    step config files jobs (reached config jobs alone steps) i =
      reached config jobs alone (Function.update steps i (steps i + 1)) := by
  have hothers : ∀ j, j ≠ i → steps j = Function.update steps i (steps i + 1) j :=
    fun j hj => (Function.update_of_ne hj _ _).symm
  rcases hjob : jobs[i]? with _ | job
  · have hsame : ∀ j job, jobs[j]? = some job →
        steps j = Function.update steps i (steps i + 1) j := by
      intro j job hj
      refine hothers j ?_
      rintro rfl
      rw [hjob] at hj
      cases hj
    rw [← reached_congr hsame]
    unfold step
    rw [hjob]
  · obtain ⟨body, hbody, heq⟩ := halone job (List.mem_of_getElem? hjob)
    have hid : (jobs.map Prod.fst)[i]? = some job.1 := by rw [List.getElem?_map, hjob]; rfl
    have hgiven : i < (reached config jobs alone steps).aggregator.windows.length := by
      show i < (jobs.mapIdx _).length
      rw [List.length_mapIdx]
      exact (List.getElem?_eq_some_iff.mp hjob).1
    have hadvance : (stageAfter config job i (alone job) (steps i)).advance config files job
          (reached config jobs alone steps).aggregator =
        ((reached config jobs alone steps).aggregator.put i (windowAfter config job (steps i + 1)),
          stageAfter config job i (alone job) (steps i + 1)) := by
      rw [heq]
      exact advance_stageAfter (steps i) hbody (Aggregator.current?_ofWindows hids _ hid) hgiven
        (window_reached steps hjob)
    rw [reached_set hjob hothers, Function.update_self]
    unfold step
    rw [stages_reached, hjob]
    dsimp only [Option.map_some]
    rw [hadvance]

/-- The workers after a schedule: where each is depends on its own steps only. -/
theorem run_eq (hids : (jobs.map Prod.fst).Nodup) (halone : Alone config files jobs alone)
    (schedule : List Nat) :
    run config files jobs schedule = reached config jobs alone fun i => schedule.count i := by
  induction schedule using List.reverseRecOn with
  | nil => exact start_eq config hids alone
  | append_singleton schedule i ih =>
    unfold run at ih ⊢
    have hcount : (fun j => (schedule ++ [i]).count j) =
        Function.update (fun j => schedule.count j) i (schedule.count i + 1) := by
      funext j
      rw [List.count_append, List.count_singleton]
      by_cases hj : j = i
      · rw [hj, Function.update_self, beq_self_eq_true, if_pos rfl]
      · have hne : ¬ (i == j) = true := by simpa using fun h => hj h.symm
        rw [Function.update_of_ne hj, if_neg hne, Nat.add_zero]
    rw [List.foldl_concat, ih, step_reached hids halone, hcount]

/-- Every worker has taken all its steps. -/
def Complete (config : Config) (jobs : List (String × String)) (steps : Nat → Nat) : Prop :=
  ∀ i job, jobs[i]? = some job → stepsOf config job ≤ steps i

theorem module?_stageAfter {job : String × String} {number steps : Nat} {m : Module} :
    (stageAfter config job number m steps).module?.isSome ↔ stepsOf config job ≤ steps := by
  by_cases hend : stepsOf config job ≤ steps
  · rw [stageAfter_of_le hend]
    exact ⟨fun _ => hend, fun _ => rfl⟩
  · have hlt : steps < stepsOf config job := Nat.lt_of_not_le hend
    have hnone : (stageAfter config job number m steps).module? = none := by
      unfold stageAfter
      rw [if_pos hlt]
      split <;> rfl
    rw [hnone]
    exact ⟨nofun, fun h => absurd h hend⟩

/-- All workers have returned just if each has taken all its steps. -/
theorem finished_reached_iff (steps : Nat → Nat) :
    (reached config jobs alone steps).Finished ↔ Complete config jobs steps := by
  constructor
  · intro h i job hjob
    have hstage : (reached config jobs alone steps).stages[i]? =
        some (stageAfter config job i (alone job) (steps i)) := by
      rw [stages_reached, hjob]
      rfl
    exact module?_stageAfter.mp (h _ (List.mem_of_getElem? hstage))
  · intro h stage hmem
    obtain ⟨i, hi⟩ := List.getElem?_of_mem hmem
    rw [stages_reached] at hi
    obtain ⟨job, hjob, rfl⟩ := Option.map_eq_some_iff.mp hi
    exact module?_stageAfter.mpr (h i job hjob)

theorem reached_of_complete {steps : Nat → Nat} (h : Complete config jobs steps) :
    reached config jobs alone steps = done config jobs alone := by
  have hwindows : (jobs.mapIdx fun i job => windowAfter config job (steps i)) =
      jobs.map (sealedWindow config) :=
    mapIdx_eq_map fun i job hjob => windowAfter_of_le (h i job hjob)
  have hstages : (jobs.mapIdx fun i job => stageAfter config job i (alone job) (steps i)) =
      jobs.map fun job => .ended (alone job) :=
    mapIdx_eq_map fun i job hjob => stageAfter_of_le (h i job hjob)
  unfold reached done
  rw [hwindows, hstages]

/-- The records of all modules are those of the modules that are returned, in their order. -/
theorem records_done (halone : Alone config files jobs alone) (s : Severity) :
    (done config jobs alone).aggregator.records s = (jobs.map alone).filterMap (·.record? s) := by
  unfold done
  dsimp only
  rw [Aggregator.records_ofWindows (by simp), List.filterMap_map, List.filterMap_map]
  refine List.filterMap_congr fun job hjob => ?_
  obtain ⟨body, -, heq⟩ := halone job hjob
  dsimp only [Function.comp]
  rw [heq, Module.record?_withRecords]
  cases s <;> rfl

end Schedules

end Pool

/-! ## All interleavings end in one state -/

namespace Pool

theorem alone_of_isOk {config : Config} {files : List (String × Text.Bytes)}
    {jobs : List (String × String)}
    (h : ∀ job ∈ jobs, ((fresh config files).buildModule job.1 job.2).2.isOk = true) :
    ∃ alone, Alone config files jobs alone ∧
      ∀ job ∈ jobs, ((fresh config files).buildModule job.1 job.2).2 = .ok (alone job) := by
  refine ⟨fun job => (((fresh config files).buildModule job.1 job.2).2.toOption).getD
    { id := job.1, source := job.2, output := job.2 }, ?_, ?_⟩
  · intro job hjob
    have hok := h job hjob
    dsimp only
    rw [buildModule_fresh] at hok ⊢
    rcases hbody : bodyOf config files job.1 job.2 with f | body
    · rw [hbody] at hok
      cases hok
    · exact ⟨body, rfl, rfl⟩
  · intro job hjob
    have hok := h job hjob
    rcases hbuild : ((fresh config files).buildModule job.1 job.2).2 with f | m
    · rw [hbuild] at hok
      cases hok
    · dsimp only
      rw [hbuild]
      rfl

/-- Modules of different names that are built without a fault. A schedule lets all workers come to their
end just if it lets each take all its steps; then the windows and the modules are the same for all
schedules, for builds by one call with any number of workers, and for builds by a call each. Every
module is that of a build in a compilation of its own, and the records are those of the modules, in
their order. -/
theorem run_finished (config : Config) (files : List (String × Text.Bytes))
    {jobs : List (String × String)} (hids : (jobs.map Prod.fst).Nodup)
    (hbuilt : ∀ job ∈ jobs,
      ((fresh config files).buildModule job.1 job.2).2.isOk = true) :
    ∃ (a : Aggregator) (ms : List Module),
      List.Forall₂ (fun job m =>
        ((fresh config files).buildModule job.1 job.2).2 = .ok m) jobs ms ∧
      (∀ s, a.records s = ms.filterMap (·.record? s)) ∧
      (∀ schedule, (run config files jobs schedule).Finished ↔
        ∀ i job, jobs[i]? = some job → stepsOf config job ≤ schedule.count i) ∧
      (∀ schedule, (run config files jobs schedule).Finished →
        run config files jobs schedule = ⟨a, ms.map .ended⟩) ∧
      (∀ workers begun, ((fresh config files).buildModules jobs workers begun).2 = .ok ms ∧
        ((fresh config files).buildModules jobs workers begun).1.aggregator = a) ∧
      ((fresh config files).buildEach jobs).2 = .ok ms ∧
      ((fresh config files).buildEach jobs).1.aggregator = a := by
  obtain ⟨alone, halone, hmodules⟩ := alone_of_isOk hbuilt
  have hfinished : ∀ schedule, (run config files jobs schedule).Finished ↔
      Complete config jobs fun i => schedule.count i := by
    intro schedule
    rw [run_eq hids halone]
    exact finished_reached_iff _
  have heach := buildEach_holds (fresh config files) [] hids halone
    ⟨rfl, rfl, rfl⟩
  refine ⟨(done config jobs alone).aggregator, jobs.map alone, ?_, records_done halone, hfinished,
    ?_, buildModules_fresh hids halone, heach.2, heach.1.aggregator⟩
  · rw [List.forall₂_map_right_iff, List.forall₂_same]
    exact hmodules
  · intro schedule h
    rw [run_eq hids halone, reached_of_complete ((hfinished schedule).mp h)]
    unfold done
    rw [List.map_map]
    rfl

/-- A first source without any key. -/
def bare : Config := { primary := some (.ofTable "table" []) }

/-- Two modules, each with a key that is missed. -/
def twoJobs : List (String × String) := [("a.py", "__('a')\n"), ("b.py", "x = 1, __('b')\n")]

/-- The workers of two modules take turns. -/
theorem run_finished_twoJobs :
    ∃ (a : Aggregator) (ms : List Module),
      (twoJobs.map Prod.fst).Nodup ∧
      (∀ job ∈ twoJobs, ((fresh bare []).buildModule job.1 job.2).2.isOk = true) ∧
      (∀ s, a.records s = ms.filterMap (·.record? s)) ∧
      run bare [] twoJobs [1, 0, 1, 0, 0, 1] = ⟨a, ms.map .ended⟩ := by
  have hids : (twoJobs.map Prod.fst).Nodup := by decide
  have hbuilt : ∀ job ∈ twoJobs, ((fresh bare []).buildModule job.1 job.2).2.isOk = true := by
    decide +kernel
  have hsteps : ∀ job ∈ twoJobs, stepsOf bare job = 3 := by decide +kernel
  obtain ⟨a, ms, -, hrecords, hfinished, hstate, -⟩ := run_finished bare [] hids hbuilt
  refine ⟨a, ms, hids, hbuilt, hrecords, hstate _ ((hfinished _).mpr ?_)⟩
  intro i job hjob
  rw [hsteps job (List.mem_of_getElem? hjob)]
  match i with
  | 0 => decide
  | 1 => decide
  | i + 2 => cases hjob

end Pool

end Localize
