/-
  Builds after other builds. `Call` is one call of a compilation, of one module or of several, and
  `leftBy` goes through the builds of a history and says what they leave for the next scan of
  each module: a build that ends with a fault leaves the misses of its scan, a build that returns
  leaves nothing, and one that is cancelled behind a fault changes nothing. `run_agrees` says that
  after any history a call returns modules with the output, the dependencies and the build errors of
  a new compilation, and that a record is that of a new compilation just if what was left is how that
  record begins. So it always is where all calls before have returned (`run_agrees_of_completed`),
  but not after a fault (`record_after_fault`).
-/
import Localize.Proofs.Compilation.Build
import Mathlib.Data.List.Forall2

namespace Localize.Compilation

/-- What is left for the next scan of each module. -/
abbrev Leftovers := String → Severity → List Miss

/-- What is left by nothing at all. -/
def nothingLeft : Leftovers := fun _ _ => []

/-- What one more build leaves. -/
def leave (config : Config) (files : List (String × Text.Bytes)) (left : Leftovers)
    (job : String × String) : Leftovers := fun id s =>
  if id = job.1 then
    match bodyOf config files job.1 job.2 with
    | .ok _ => []
    | .error _ => (Window.missesOf s (entriesOf config job.2)).foldl keep (left id s)
  else left id s

theorem leave_other {config : Config} {files : List (String × Text.Bytes)} {left : Leftovers}
    {job : String × String} {id : String} (h : id ≠ job.1) (s : Severity) :
    leave config files left job id s = left id s := by
  unfold leave
  rw [if_neg h]

/-! ## One build -/

/-- A compilation that came from a new one, with what is left in it. -/
structure Along (config : Config) (files : List (String × Text.Bytes)) (left : Leftovers)
    (c : Compilation) : Prop where
  config : c.config = config
  files : c.files = files
  sound : c.aggregator.Sound
  left : ∀ id s, c.aggregator.pending id s = left id s

/-- A module as a new compilation returns it for a name and a source, but for its records, each of
which is the same just if what was left is how it begins. -/
def Agrees (config : Config) (files : List (String × Text.Bytes)) (left : Leftovers)
    (job : String × String) (m : Module) : Prop :=
  ∃ alone, ((fresh config files).buildModule job.1 job.2).2 = .ok alone ∧
    m.output = alone.output ∧ m.dependencies = alone.dependencies ∧
    m.buildErrors = alone.buildErrors ∧
    ∀ s, m.record? s = alone.record? s ↔ left job.1 s <+: alone.misses s

theorem Agrees.congr {config : Config} {files : List (String × Text.Bytes)} {left left' : Leftovers}
    {job : String × String} {m : Module} (h : ∀ s, left' job.1 s = left job.1 s)
    (hm : Agrees config files left' job m) : Agrees config files left job m := by
  obtain ⟨alone, hbuild, houtput, hdependencies, herrors, hrecords⟩ := hm
  refine ⟨alone, hbuild, houtput, hdependencies, herrors, fun s => ?_⟩
  rw [← h s]
  exact hrecords s

section Build

variable {config : Config} {files : List (String × Text.Bytes)} {left : Leftovers} {c : Compilation}

theorem along_fresh (config : Config) (files : List (String × Text.Bytes)) :
    Along config files nothingLeft (fresh config files) :=
  ⟨rfl, rfl, Aggregator.sound_empty, fun _ _ => rfl⟩

/-- A window with the entries of a scan, for what was left before. -/
theorem misses_written {b : Aggregator} {n : Nat} {id : String} (hc : Along config files left c)
    (hopened : Aggregator.Opened c.aggregator id b n) (source : String) (s : Severity) :
    (written config source (b.window n)).misses s =
      (Window.missesOf s (entriesOf config source)).foldl keep (left id s) := by
  unfold written
  rw [Window.misses_recordAll, hopened.misses, hc.left]

theorem proper_written (config : Config) {b : Aggregator} {n : Nat} {id : String}
    (hopened : Aggregator.Opened c.aggregator id b n) (source : String) :
    (written config source (b.window n)).Proper ∧
      (written config source (b.window n)).module = id := by
  unfold written
  exact ⟨hopened.proper.recordAll _, (Window.module_recordAll _ _).trans hopened.own⟩

/-- The records of a window with the entries of a scan are those of a new window just if what was
left before is how they begin. -/
theorem get?_written_iff {b : Aggregator} {n : Nat} {id : String} (hc : Along config files left c)
    (hopened : Aggregator.Opened c.aggregator id b n) (source : String) (s : Severity) :
    (written config source (b.window n)).get? s = (written config source { module := id }).get? s ↔
      left id s <+: (written config source { module := id }).misses s := by
  obtain ⟨hproper, hmodule⟩ := proper_written config hopened source
  have hnew : (written config source { module := id }).Proper :=
    (Window.proper_empty id false).recordAll _
  have hmodule' : (written config source { module := id }).module = id := Window.module_recordAll _ _
  have hmisses : (written config source { module := id }).misses s =
      (Window.missesOf s (entriesOf config source)).foldl keep [] := by
    unfold written
    rw [Window.misses_recordAll]
    cases s <;> rfl
  rw [hproper.get?_eq_iff hnew (hmodule.trans hmodule'.symm), misses_written hc hopened, hmisses]
  exact foldl_keep_eq_iff _ _

/-- One build: what it leaves, and what it returns. -/
theorem build_along (hc : Along config files left c) (job : String × String) :
    Along config files (leave config files left job) (c.build job.1 job.2).1 ∧
      ((c.build job.1 job.2).2.isOk = (bodyOf config files job.1 job.2).isOk) ∧
      ∀ m, (c.build job.1 job.2).2 = .ok m → Agrees config files left job m := by
  obtain ⟨id, source⟩ := job
  have hopened := Aggregator.openWindow_opened hc.sound id
  rcases hopen : c.aggregator.openWindow id with ⟨b, n⟩
  rw [hopen] at hopened
  obtain ⟨events, hrun⟩ := build_run c id source hopen hopened.given hopened.isOpen
  obtain ⟨hproper, hmodule⟩ := proper_written config hopened source
  have hsealed := Window.isSealed_recordAll (b.window n) (entriesOf config source)
  have hpending : ∀ w : Window, ∀ m s, (b.put n w).pending m s =
      if m = id then (if w.isSealed then [] else w.misses s) else left m s := by
    intro w m s
    rw [Aggregator.pending_put hopened.sound hopened.current, hopened.pending, hc.left]
  have hfresh := buildModule_fresh config files id source
  rw [hc.config, hc.files] at hrun
  dsimp only
  rw [hrun]
  unfold leave
  dsimp only
  rcases hbody : bodyOf config files id source with f | m
  · refine ⟨⟨rfl, rfl, hopened.sound.put hopened.current hmodule hproper, ?_⟩, rfl, nofun⟩
    intro m s
    have hopen' : (written config source (b.window n)).isSealed = false :=
      hsealed.trans hopened.isOpen
    dsimp only
    rw [hpending, hopen', misses_written hc hopened]
    by_cases hm : m = id
    · rw [if_pos hm, if_pos hm, hm]
      rfl
    · rw [if_neg hm, if_neg hm]
  · rw [hbody] at hfresh
    refine ⟨⟨rfl, rfl, hopened.sound.put hopened.current hmodule hproper.close, ?_⟩, rfl, ?_⟩
    · intro m s
      dsimp only
      rw [hpending]
      rfl
    · intro m' hm'
      cases hm'
      refine ⟨m.withRecords (written config source { module := id }), hfresh, rfl, rfl, rfl,
        fun s => ?_⟩
      rw [Module.record?_withRecords, Module.record?_withRecords, Module.misses_withRecords]
      exact get?_written_iff hc hopened source s

theorem openWindow_along (hc : Along config files left c) (id : String) :
    Along config files left { c with aggregator := (c.aggregator.openWindow id).1 } := by
  have hopened := Aggregator.openWindow_opened hc.sound id
  refine ⟨hc.config, hc.files, hopened.sound, fun m s => ?_⟩
  exact (hopened.pending m s).trans (hc.left m s)

end Build

/-! ## Several builds -/

/-- The builds of modules: those up to the first fault, and of the others those that have begun by
then. -/
def performed (config : Config) (files : List (String × Text.Bytes)) (begun : String → Bool) :
    List (String × String) → List (String × String)
  | [] => []
  | job :: rest =>
    match bodyOf config files job.1 job.2 with
    | .ok _ => job :: performed config files begun rest
    | .error _ => job :: rest.filter (begun ·.1)

section Several

variable {config : Config} {files : List (String × Text.Bytes)} {left : Leftovers} {c : Compilation}

/-- Builds of other modules make no difference to what was left for one. -/
theorem agrees_behind {job : String × String} {rest : List (String × String)} {ms : List Module}
    (hids : ((job :: rest).map Prod.fst).Nodup)
    (h : List.Forall₂ (Agrees config files (leave config files left job)) rest ms) :
    List.Forall₂ (Agrees config files left) rest ms := by
  have hother : ∀ other ∈ rest, other.1 ≠ job.1 := by
    intro other hmem heq
    rw [List.map_cons, List.nodup_cons] at hids
    exact hids.1 (heq ▸ List.mem_map_of_mem hmem)
  clear hids
  induction h with
  | nil => exact .nil
  | cons hm _ ih =>
    refine .cons (hm.congr fun s => leave_other (hother _ List.mem_cons_self) s) ?_
    exact ih fun other hmem => hother other (List.mem_cons_of_mem _ hmem)

theorem finish_along (hc : Along config files left c) (jobs : List (String × String)) :
    Along config files (jobs.foldl (leave config files) left) (c.finish jobs) := by
  unfold finish
  induction jobs generalizing c left with
  | nil => exact hc
  | cons job rest ih => exact ih (build_along hc job).1

theorem buildAll_along (hc : Along config files left c) (begun : String → Bool)
    (jobs : List (String × String)) :
    Along config files ((performed config files begun jobs).foldl (leave config files) left)
        (c.buildAll begun jobs).1 ∧
      ∀ ms, (c.buildAll begun jobs).2 = .ok ms → (jobs.map Prod.fst).Nodup →
        List.Forall₂ (Agrees config files left) jobs ms := by
  induction jobs generalizing c left with
  | nil =>
    refine ⟨hc, fun ms hms _ => ?_⟩
    cases hms
    exact .nil
  | cons job rest ih =>
    obtain ⟨hc', hok, hagrees⟩ := build_along hc job
    unfold buildAll performed
    rcases hbuild : c.build job.1 job.2 with ⟨c', f | m⟩
    · rw [hbuild] at hc' hok
      rcases hbody : bodyOf config files job.1 job.2 with f' | body
      · exact ⟨finish_along hc' _, nofun⟩
      · rw [hbody] at hok
        cases hok
    · rw [hbuild] at hc' hok hagrees
      rcases hbody : bodyOf config files job.1 job.2 with f' | body
      · rw [hbody] at hok
        cases hok
      · obtain ⟨hrest, hrests⟩ := ih hc'
        dsimp only
        rcases hothers : c'.buildAll begun rest with ⟨c'', f | ms'⟩
        · rw [hothers] at hrest
          exact ⟨hrest, nofun⟩
        · rw [hothers] at hrest hrests
          refine ⟨hrest, fun ms hms hids => ?_⟩
          cases hms
          have hids' := (List.nodup_cons.mp hids).2
          exact .cons (hagrees m rfl) (agrees_behind hids (hrests ms' rfl hids'))

theorem openAll_along (hc : Along config files left c) (ids : List String) :
    Along config files left
      { c with aggregator := ids.foldl (fun a id => (a.openWindow id).1) c.aggregator } := by
  induction ids generalizing c with
  | nil => exact hc
  | cons id rest ih => exact ih (openWindow_along hc id)

theorem store_along (hc : Along config files left c) (ms : List Module) :
    Along config files left (ms.foldl store c) := by
  induction ms generalizing c with
  | nil => exact hc
  | cons m ms ih => exact ih ⟨hc.config, hc.files, hc.sound, hc.left⟩

end Several

/-! ## Calls -/

/-- A call of a compilation. -/
inductive Call where
  /-- One module is built. -/
  | one (id source : String)
  /-- Several modules are built by a number of workers, which have begun some of them at a fault. -/
  | many (sources : List (String × String)) (workers : Int) (begun : String → Bool)

namespace Call

/-- The modules that a call is given, by name and source. -/
def sources : Call → List (String × String)
  | one id source => [(id, source)]
  | many sources _ _ => sources

/-- Runs a call. -/
def run (c : Compilation) : Call → Compilation × Except BuildFault (List Module)
  | one id source =>
    match c.buildModule id source with
    | (c, .ok m) => (c, .ok [m])
    | (c, .error f) => (c, .error f)
  | many sources workers begun => c.buildModules sources workers begun

/-- The builds of a call. -/
def builds (config : Config) (files : List (String × Text.Bytes)) : Call → List (String × String)
  | one id source => [(id, source)]
  | many sources workers begun =>
    performed config files (fun id => !inTurn sources workers && begun id) sources

end Call

/-- The compilation after calls, whatever they came to. -/
def after (c : Compilation) (calls : List Call) : Compilation :=
  calls.foldl (fun c call => (call.run c).1) c

/-- What the builds of calls leave. -/
def leftBy (config : Config) (files : List (String × Text.Bytes)) (calls : List Call) : Leftovers :=
  calls.foldl (fun left call => (call.builds config files).foldl (leave config files) left) nothingLeft

section Calls

variable {config : Config} {files : List (String × Text.Bytes)} {left : Leftovers} {c : Compilation}

theorem buildModules_along (hc : Along config files left c) (jobs : List (String × String))
    (workers : Int) (begun : String → Bool) :
    Along config files
        (((Call.many jobs workers begun).builds config files).foldl (leave config files) left)
        (c.buildModules jobs workers begun).1 ∧
      ∀ ms, (c.buildModules jobs workers begun).2 = .ok ms → (jobs.map Prod.fst).Nodup →
        List.Forall₂ (Agrees config files left) jobs ms := by
  have hbuilt := buildAll_along (openAll_along hc (jobs.map Prod.fst))
    (fun id => !inTurn jobs workers && begun id) jobs
  unfold buildModules
  dsimp only
  rw [foldl_openWindow_fst]
  generalize buildAll _ _ jobs = built at hbuilt ⊢
  obtain ⟨halong, hms⟩ := hbuilt
  rcases built with ⟨c', f | ms⟩
  · exact ⟨halong, nofun⟩
  · have hstored := store_along halong ms
    refine ⟨⟨hstored.config, hstored.files, hstored.sound, hstored.left⟩, fun ms' hms' => ?_⟩
    cases hms'
    exact hms ms rfl

/-- One call: what it leaves, and what it returns. -/
theorem run_along (hc : Along config files left c) (call : Call) :
    Along config files ((call.builds config files).foldl (leave config files) left) (call.run c).1 ∧
      ∀ ms, (call.run c).2 = .ok ms → (call.sources.map Prod.fst).Nodup →
        List.Forall₂ (Agrees config files left) call.sources ms := by
  cases call with
  | one id source =>
    obtain ⟨hc', -, hagrees⟩ := build_along (openWindow_along hc id) (id, source)
    dsimp only at hc' hagrees
    unfold Call.run buildModule
    dsimp only
    rcases hbuild : build { c with aggregator := (c.aggregator.openWindow id).1 } id source with
      ⟨c', f | m⟩
    · rw [hbuild] at hc'
      exact ⟨hc', nofun⟩
    · rw [hbuild] at hc' hagrees
      refine ⟨store_along hc' [m], fun ms hms _ => ?_⟩
      cases hms
      exact .cons (hagrees m rfl) .nil
  | many jobs workers begun => exact buildModules_along hc jobs workers begun

theorem after_along (config : Config) (files : List (String × Text.Bytes)) (calls : List Call) :
    Along config files (leftBy config files calls) ((fresh config files).after calls) := by
  have hfrom : ∀ (left : Leftovers) (c : Compilation), Along config files left c →
      Along config files
        (calls.foldl (fun left call => (call.builds config files).foldl (leave config files) left) left)
        (calls.foldl (fun c call => (call.run c).1) c) := by
    induction calls with
    | nil => exact fun _ _ hc => hc
    | cons call calls ih => exact fun left c hc => ih _ _ (run_along hc call).1
  exact hfrom nothingLeft _ (along_fresh config files)

end Calls

/-! ## Any history -/

/-- After any calls, whatever they came to and whatever they had begun at a fault, a call that returns
gives the modules of a new compilation in all but their records. A record is that of a new compilation
just if what the builds before left for the module is how that record begins. -/
theorem run_agrees (config : Config) (files : List (String × Text.Bytes)) (calls : List Call)
    {call : Call} {ms : List Module} (hids : (call.sources.map Prod.fst).Nodup)
    (h : (call.run ((fresh config files).after calls)).2 = .ok ms) :
    List.Forall₂ (Agrees config files (leftBy config files calls)) call.sources ms :=
  (run_along (after_along config files calls) call).2 ms h hids

theorem performed_sublist (config : Config) (files : List (String × Text.Bytes)) (begun : String → Bool)
    (jobs : List (String × String)) : (performed config files begun jobs).Sublist jobs := by
  induction jobs with
  | nil => exact .refl _
  | cons job rest ih =>
    unfold performed
    split
    · exact ih.cons_cons job
    · exact List.filter_sublist.cons_cons job

theorem mem_builds {config : Config} {files : List (String × Text.Bytes)} {call : Call}
    {job : String × String} (h : job ∈ call.builds config files) : job ∈ call.sources := by
  cases call with
  | one id source => exact h
  | many jobs workers begun => exact (performed_sublist config files _ jobs).mem h

/-- Builds of which each leaves nothing behind leave nothing together. -/
theorem leftBy_of_leave {config : Config} {files : List (String × Text.Bytes)} {calls : List Call}
    (h : ∀ call ∈ calls, ∀ job ∈ call.sources, leave config files nothingLeft job = nothingLeft) :
    leftBy config files calls = nothingLeft := by
  have hjobs : ∀ jobs : List (String × String),
      (∀ job ∈ jobs, leave config files nothingLeft job = nothingLeft) →
      jobs.foldl (leave config files) nothingLeft = nothingLeft := by
    intro jobs hjobs
    induction jobs with
    | nil => rfl
    | cons job rest ih =>
      rw [List.foldl_cons, hjobs job List.mem_cons_self]
      exact ih fun job' hjob' => hjobs job' (List.mem_cons_of_mem _ hjob')
  unfold leftBy
  induction calls with
  | nil => rfl
  | cons call rest ih =>
    rw [List.foldl_cons, hjobs _ fun job hjob => h call List.mem_cons_self job (mem_builds hjob)]
    exact ih fun call' hcall' => h call' (List.mem_cons_of_mem _ hcall')

/-- Builds that return leave nothing. -/
theorem leftBy_of_completed {config : Config} {files : List (String × Text.Bytes)}
    {calls : List Call}
    (h : ∀ call ∈ calls, ∀ job ∈ call.sources, (bodyOf config files job.1 job.2).isOk) :
    leftBy config files calls = nothingLeft := by
  refine leftBy_of_leave fun call hcall job hjob => ?_
  have hok := h call hcall job hjob
  funext id s
  unfold leave
  rcases hbody : bodyOf config files job.1 job.2 with f | m
  · rw [hbody] at hok
    cases hok
  · exact ite_self _

/-- Where every build before has returned, a call returns the modules of a new compilation, with all
their records. -/
theorem run_agrees_of_completed (config : Config) (files : List (String × Text.Bytes))
    {calls : List Call} {call : Call} {ms : List Module}
    (hcompleted : ∀ call ∈ calls, ∀ job ∈ call.sources, (bodyOf config files job.1 job.2).isOk)
    (hids : (call.sources.map Prod.fst).Nodup)
    (h : (call.run ((fresh config files).after calls)).2 = .ok ms) :
    List.Forall₂ (fun job m => ∃ alone,
      ((fresh config files).buildModule job.1 job.2).2 = .ok alone ∧ m.output = alone.output ∧
      m.dependencies = alone.dependencies ∧ m.buildErrors = alone.buildErrors ∧
      ∀ s, m.record? s = alone.record? s) call.sources ms := by
  have hagrees := (run_along (after_along config files calls) call).2 ms h hids
  rw [leftBy_of_completed hcompleted] at hagrees
  refine hagrees.imp fun job m hm => ?_
  obtain ⟨alone, hbuild, houtput, hdependencies, herrors, hrecords⟩ := hm
  exact ⟨alone, hbuild, houtput, hdependencies, herrors,
    fun s => (hrecords s).mpr List.nil_prefix⟩

/-! ## After a fault -/

/-- A first source that has no key, and a fallback that refuses every key. -/
def refusing : Config where
  primary := some (.function "none" fun _ => .ok .null)
  fallback := some (.function "refuse" fun key => .error (.refused key))

/-- A build of a module that ends with a fault of the fallback. -/
def refused : Call := .one "a.py" "__('old')\n"

/-- A build of the same module without any call of the localization function. -/
def rebuilt : Call := .one "a.py" "x = 1\n"

/-- After a build that ended with a fault, the module that is built next under the same name has the
key of that build in its record, which a new compilation does not give it. -/
theorem record_after_fault :
    ((rebuilt.run ((fresh refusing []).after [refused])).2.toOption.map
        (List.map fun m => (m.misses .warning).map Miss.key)) = some [["old"]] ∧
      ((fresh refusing []).buildModule "a.py" "x = 1\n").2.toOption.map (·.misses .warning) =
        some [] := by
  decide +kernel

/-- The call after the fault returns, with one module. -/
theorem run_agrees_refusing :
    ∃ ms, (rebuilt.sources.map Prod.fst).Nodup ∧
      (rebuilt.run ((fresh refusing []).after [refused])).2 = .ok ms ∧
      List.Forall₂ (Agrees refusing [] (leftBy refusing [] [refused])) rebuilt.sources ms := by
  have hids : (rebuilt.sources.map Prod.fst).Nodup := by decide
  have hok : (rebuilt.run ((fresh refusing []).after [refused])).2.isOk = true := by decide +kernel
  rcases hrun : (rebuilt.run ((fresh refusing []).after [refused])).2 with f | ms
  · rw [hrun] at hok
    cases hok
  · exact ⟨ms, hids, rfl, run_agrees refusing [] [refused] hids hrun⟩

end Localize.Compilation
