/-
  The two orders in which modules are reported. A window that is opened anew goes to the end of the
  windows, and a module that is stored again keeps its place in the table. So the windows stand in the
  order of the last builds of their modules, and the table in that of the first ones (`after_ordered`).
  Both have the same records, and they are one list just if the modules that have a record were built
  first in the order in which they were built last (`after_reports`).
-/
import Localize.Proofs.Compilation.Agreement
import Mathlib.Data.List.Dedup

namespace Localize

/-! ## First and last occurrences -/

section Occurrences

variable {α β : Type}

section Names

variable [DecidableEq α]

/-- A name that comes once more moves to the end of the last occurrences. -/
theorem dedup_concat (names : List α) (name : α) :
    (names ++ [name]).dedup = names.dedup.filter (· ≠ name) ++ [name] := by
  induction names with
  | nil => rfl
  | cons first rest ih =>
    rw [List.cons_append]
    by_cases hrest : first ∈ rest
    · rw [List.dedup_cons_of_mem (List.mem_append_left _ hrest), List.dedup_cons_of_mem hrest, ih]
    · rw [List.dedup_cons_of_notMem hrest]
      by_cases hname : first = name
      · rw [List.dedup_cons_of_mem (by simp [hname]), ih, List.filter_cons_of_neg (by simp [hname])]
      · rw [List.dedup_cons_of_notMem (by simp [hrest, hname]), ih,
          List.filter_cons_of_pos (by simp [hname]), List.cons_append]

/-- A name that comes once more keeps its place among the first occurrences. -/
theorem eraseDups_concat (names : List α) (name : α) :
    (names ++ [name]).eraseDups =
      if name ∈ names.eraseDups then names.eraseDups else names.eraseDups ++ [name] := by
  rw [List.eraseDups_append, List.removeAll]
  by_cases h : name ∈ names
  · rw [if_pos (List.mem_eraseDups.mpr h), List.filter_cons_of_neg (by simpa using h)]
    exact List.append_nil _
  · rw [if_neg (mt List.mem_eraseDups.mp h), List.filter_cons_of_pos (by simpa using h)]
    rfl

theorem nodup_eraseDups (names : List α) : names.eraseDups.Nodup := by
  induction names using List.reverseRecOn with
  | nil => exact List.nodup_nil
  | append_singleton names name ih =>
    rw [eraseDups_concat]
    split
    · exact ih
    · rename_i h
      exact List.nodup_append.mpr ⟨ih, List.nodup_singleton name,
        fun k hk k' hk' heq => h (List.mem_singleton.mp hk' ▸ heq ▸ hk)⟩

/-- Names of which none comes twice are their own first occurrences. -/
theorem eraseDups_of_nodup {names : List α} (h : names.Nodup) : names.eraseDups = names := by
  induction names using List.reverseRecOn with
  | nil => rfl
  | append_singleton names name ih =>
    obtain ⟨hnames, -, hname⟩ := List.nodup_append.mp h
    rw [eraseDups_concat, ih hnames, if_neg fun hmem => hname name hmem name (by simp) rfl]

/-- The first and the last occurrences are the same names. -/
theorem dedup_perm_eraseDups (names : List α) : names.dedup.Perm names.eraseDups :=
  (List.perm_ext_iff_of_nodup (List.nodup_dedup names) (nodup_eraseDups names)).mpr fun a => by
    rw [List.mem_dedup, List.mem_eraseDups]

end Names

/-- Where a value tells what it was found for, two lists of values are the same just if the same
things have a value, in the same order. -/
theorem filterMap_eq_filterMap_iff {f : α → Option β} {key : β → α} (hkey : ∀ a b, f a = some b → key b = a)
    (front back : List α) :
    front.filterMap f = back.filterMap f ↔
      (front.filter fun a => (f a).isSome) = back.filter fun a => (f a).isSome := by
  have hkeys : ∀ l : List α, (l.filterMap f).map key = l.filter fun a => (f a).isSome := by
    intro l
    rw [List.map_filterMap, ← List.filterMap_eq_filter]
    refine List.filterMap_congr fun a _ => ?_
    rcases hf : f a with _ | b
    · simp [Option.guard, hf]
    · simp [Option.guard, hf, hkey a b hf]
  have hvalues : ∀ l : List α, (l.filter fun a => (f a).isSome).filterMap f = l.filterMap f := by
    intro l
    rw [List.filterMap_filter]
    refine List.filterMap_congr fun a _ => ?_
    rcases f a with _ | b <;> rfl
  constructor
  · intro h
    rw [← hkeys, ← hkeys, h]
  · intro h
    rw [← hvalues front, h, hvalues back]

end Occurrences

/-! ## The order of windows -/

namespace Aggregator

variable {a : Aggregator} {module : String}

/-- Opening a window that is open changes nothing. -/
theorem openWindow_of_isOpen (h : a.IsOpen module) : (a.openWindow module).1 = a := by
  obtain ⟨w, hw, hopen⟩ := h
  obtain ⟨n, hn, rfl⟩ := Option.map_eq_some_iff.mp hw
  unfold openWindow
  rw [hn]
  dsimp only
  rw [if_neg (by simp [hopen])]

/-- A window that is not open is opened at the end. -/
theorem keys_openWindow (h : ¬a.IsOpen module) :
    (a.openWindow module).1.current.map Prod.fst =
      (a.current.map Prod.fst).filter (· ≠ module) ++ [module] := by
  have hrenew : (a.renew module).1.current.map Prod.fst =
      (a.current.map Prod.fst).filter (· ≠ module) ++ [module] := by
    unfold renew
    rw [List.map_append, List.filter_map]
    rfl
  unfold openWindow
  rcases hn : a.current? module with _ | n
  · exact hrenew
  · dsimp only
    rw [if_pos]
    · exact hrenew
    · by_contra hsealed
      exact h ⟨_, window?_of_current hn, by simpa using hsealed⟩

/-- Windows that are not open go to the end when they are opened, in the order of opening. -/
theorem keys_openAll (h : a.Sound) {ids builds : List String} (hids : ids.Nodup)
    (hopen : ∀ id ∈ ids, ¬a.IsOpen id) (hbuilds : a.current.map Prod.fst = builds.dedup) :
    (ids.foldl (fun a id => (a.openWindow id).1) a).current.map Prod.fst =
      (builds ++ ids).dedup := by
  induction ids generalizing a builds with
  | nil => rw [List.append_nil]; exact hbuilds
  | cons first rest ih =>
    obtain ⟨hfirst, hrest⟩ := List.nodup_cons.mp hids
    have hstill : ∀ id ∈ rest, ¬(a.openWindow first).1.IsOpen id := by
      intro id hid
      unfold IsOpen
      rw [window?_openWindow h (ne_of_mem_of_not_mem hid hfirst)]
      exact hopen id (List.mem_cons_of_mem _ hid)
    have hnext : (a.openWindow first).1.current.map Prod.fst = (builds ++ [first]).dedup := by
      rw [keys_openWindow (hopen first List.mem_cons_self), hbuilds, dedup_concat]
    rw [List.foldl_cons, ih (openWindow_opened h first).sound hrest hstill hnext,
      List.append_assoc, List.singleton_append]

end Aggregator

namespace Compilation

variable {c : Compilation}

/-- A build whose window is open leaves the windows in their order. -/
theorem current_build {id : String} (source : String) (h : c.aggregator.IsOpen id) :
    (c.build id source).1.aggregator.current = c.aggregator.current := by
  have hsame := Aggregator.openWindow_of_isOpen h
  unfold build
  rcases hopen : c.aggregator.openWindow id with ⟨b, n⟩
  rw [hopen] at hsame
  dsimp only at hsame ⊢
  subst hsame
  rcases (buildText _ _ _ _ _).result with f | m <;> rfl

section Builds

variable {jobs : List (String × String)}

/-- What is open behind a build is still open after it. -/
theorem isOpen_behind {job : String × String} {rest : List (String × String)}
    (h : c.aggregator.Tidy) (hids : ((job :: rest).map Prod.fst).Nodup)
    (hopen : ∀ other ∈ job :: rest, c.aggregator.IsOpen other.1) :
    ∀ other ∈ rest, (c.build job.1 job.2).1.aggregator.IsOpen other.1 := by
  intro other hother
  refine (build_done h job).1.isOpen ?_ (hopen other (List.mem_cons_of_mem _ hother))
  intro hmem
  rw [List.map_cons, List.nodup_cons] at hids
  exact hids.1 (List.mem_singleton.mp hmem ▸ List.mem_map_of_mem hother)

theorem current_finish (h : c.aggregator.Tidy) (hids : (jobs.map Prod.fst).Nodup)
    (hopen : ∀ job ∈ jobs, c.aggregator.IsOpen job.1) :
    (c.finish jobs).aggregator.current = c.aggregator.current := by
  unfold finish
  induction jobs generalizing c with
  | nil => rfl
  | cons job rest ih =>
    have hrest := ih (build_done h job).1.tidy (List.nodup_cons.mp hids).2 (isOpen_behind h hids hopen)
    exact hrest.trans (current_build job.2 (hopen job List.mem_cons_self))

theorem current_buildAll (h : c.aggregator.Tidy) (hids : (jobs.map Prod.fst).Nodup)
    (hopen : ∀ job ∈ jobs, c.aggregator.IsOpen job.1) (begun : String → Bool) :
    (c.buildAll begun jobs).1.aggregator.current = c.aggregator.current := by
  induction jobs generalizing c with
  | nil => rfl
  | cons job rest ih =>
    have htidy := (build_done h job).1.tidy
    have hstill := isOpen_behind h hids hopen
    have hbuild := current_build job.2 (hopen job List.mem_cons_self)
    have hids' := (List.nodup_cons.mp hids).2
    unfold buildAll
    rcases hrun : c.build job.1 job.2 with ⟨c', f | m⟩
    · rw [hrun] at htidy hstill hbuild
      refine (current_finish htidy (hids'.sublist (List.filter_sublist.map _)) ?_).trans hbuild
      exact fun other hother => hstill other (List.mem_filter.mp hother).1
    · rw [hrun] at htidy hstill hbuild
      have hrest := ih htidy hids' hstill
      dsimp only at hbuild hrest ⊢
      rcases hothers : c'.buildAll begun rest with ⟨c'', f | ms⟩ <;>
      · rw [hothers] at hrest
        exact hrest.trans hbuild

end Builds

/-! ## Calls -/

/-- The names of the modules of calls, build by build. -/
def builtIds (calls : List Call) : List String := calls.flatMap fun call => call.sources.map Prod.fst

/-- The windows stand in the order of the last builds of their modules, and the table in that of the
first ones. -/
structure Ordered (c : Compilation) (builds : List String) : Prop where
  windows : c.aggregator.current.map Prod.fst = builds.dedup
  table : c.modules.map Prod.fst = builds.eraseDups

theorem keys_stored {table : List (String × Module)} {builds : List String} {ms : List Module}
    (h : table.map Prod.fst = builds.eraseDups) :
    (stored table (.ok ms)).map Prod.fst = (builds ++ ms.map Module.id).eraseDups := by
  induction ms generalizing table builds with
  | nil => rw [List.map_nil, List.append_nil]; exact h
  | cons m ms ih =>
    have hnext : (setEntry m.id m table).map Prod.fst = (builds ++ [m.id]).eraseDups := by
      rw [keys_setEntry, eraseDups_concat, h]
    rw [stored_cons, ih hnext, List.append_assoc]
    rfl

/-- Between calls that return no window is open. -/
theorem Agreement.not_isOpen (h : Agreement c) (id : String) : ¬c.aggregator.IsOpen id := by
  rintro ⟨w, hw, hopen⟩
  obtain ⟨e, he, rfl⟩ := List.mem_map.mp ((h.windows id).mp (Aggregator.contains_iff.mpr ⟨w, hw⟩))
  obtain ⟨w', hw', hsealed, -⟩ := h.sealed e he
  rw [h.named e he, hw] at hw'
  cases hw'
  rw [hopen] at hsealed
  cases hsealed

/-- A call moves the windows that it opens, and no others. -/
theorem current_run (h : c.aggregator.Tidy) {call : Call} (hids : (call.sources.map Prod.fst).Nodup) :
    (call.run c).1.aggregator.current =
      ((call.sources.map Prod.fst).foldl (fun a id => (a.openWindow id).1) c.aggregator).current := by
  obtain ⟨hkeeps, hopen⟩ := openAll_keeps h (call.sources.map Prod.fst)
  have hjobs := fun (job : String × String) (hjob : job ∈ call.sources) =>
    hopen job.1 (.inl (List.mem_map_of_mem hjob))
  cases call with
  | one id source =>
    have hbuilt := @current_build { c with aggregator := _ } id source
      (hjobs (id, source) List.mem_cons_self)
    unfold Call.run buildModule
    dsimp only [Call.sources, List.map, List.foldl] at hbuilt ⊢
    rcases hrun : build { c with aggregator := (c.aggregator.openWindow id).1 } id source with
      ⟨c', f | m⟩ <;>
    · rw [hrun] at hbuilt
      exact hbuilt
  | many jobs workers begun =>
    have hbuilt := @current_buildAll _ jobs hkeeps.tidy hids hjobs fun id => !inTurn jobs workers && begun id
    unfold Call.run buildModules
    dsimp only [Call.sources] at hbuilt ⊢
    rw [foldl_openWindow_fst]
    generalize buildAll _ _ jobs = built at hbuilt ⊢
    rcases built with ⟨d, f | ms⟩
    · exact hbuilt
    · dsimp only at hbuilt ⊢
      rw [foldl_store]
      exact hbuilt

theorem run_ordered (h : Agreement c) {builds : List String} (hbuilds : c.Ordered builds)
    {call : Call} (hids : (call.sources.map Prod.fst).Nodup) {ms : List Module}
    (hok : (call.run c).2 = .ok ms) : (call.run c).1.Ordered (builds ++ call.sources.map Prod.fst) where
  windows := by
    rw [current_run h.tidy hids]
    exact Aggregator.keys_openAll h.tidy.sound hids (fun id _ => h.not_isOpen id) hbuilds.windows
  table := by
    obtain ⟨hdone, hstored⟩ := run_done h.tidy hids
    rw [hstored, hok, keys_stored hbuilds.table, ids_of_built (hdone.built ms hok)]

/-- After calls that all return, the windows stand in the order of the last builds, and the table in
that of the first ones. -/
theorem after_ordered (h : Agreement c) {builds : List String} (hbuilds : c.Ordered builds)
    {calls : List Call} (hcalls : Completes c calls) :
    (c.after calls).Ordered (builds ++ builtIds calls) := by
  unfold after
  induction calls generalizing c builds with
  | nil =>
    rw [builtIds, List.flatMap_nil, List.append_nil]
    exact hbuilds
  | cons call calls ih =>
    obtain ⟨hids, hok, hrest⟩ := hcalls
    rcases hrun : (call.run c).2 with f | ms
    · rw [hrun] at hok
      cases hok
    · rw [builtIds, List.flatMap_cons, ← List.append_assoc]
      exact ih (run_agreement h hids hrun) (run_ordered h hbuilds hids hrun) hrest

/-! ## Records -/

/-- The record that the table has for the module of a name. -/
def recordOf (c : Compilation) (s : Severity) (id : String) : Option Record :=
  (valueAt? id c.modules).bind (·.record? s)

/-- The records of the modules in the order in which diagnostics are collected. -/
def collectedRecords (c : Compilation) (s : Severity) : List Record :=
  (c.modules.map Prod.snd).filterMap (·.record? s)

theorem collectedRecords_eq (h : Agreement c) (s : Severity) :
    c.collectedRecords s = (c.modules.map Prod.fst).filterMap (c.recordOf s) := by
  unfold collectedRecords
  rw [List.filterMap_map, List.filterMap_map]
  refine List.filterMap_congr fun e he => ?_
  dsimp only [Function.comp, recordOf]
  rw [valueAt?_of_mem h.distinct he]
  rfl

/-- The window of a module has the records that the table has for it. -/
theorem records_eq (h : Agreement c) (s : Severity) :
    c.aggregator.records s = (c.aggregator.current.map Prod.fst).filterMap (c.recordOf s) := by
  unfold Aggregator.records
  rw [List.filterMap_map]
  refine List.filterMap_congr fun e he => ?_
  have hwindow := Aggregator.window?_of_current ((h.tidy.mem_current he).mp rfl)
  obtain ⟨m, hm, hid⟩ := List.mem_map.mp ((h.windows e.1).mp (Aggregator.contains_iff.mpr ⟨_, hwindow⟩))
  obtain ⟨w, hw, -, hwarnings, herrors⟩ := h.sealed m hm
  rw [h.named m hm, hid, hwindow] at hw
  cases hw
  dsimp only [Function.comp, recordOf]
  rw [← hid, valueAt?_of_mem h.distinct hm]
  cases s with
  | warning => exact hwarnings
  | error => exact herrors

/-- A record names the module that it is the record of. -/
theorem module_recordOf (h : Agreement c) {s : Severity} {id : String} {r : Record}
    (hr : c.recordOf s id = some r) : r.module = id := by
  obtain ⟨m, hm, hr⟩ := Option.bind_eq_some_iff.mp hr
  have hmem := mem_of_valueAt? hm
  obtain ⟨w, hw, -, hwarnings, herrors⟩ := h.sealed _ hmem
  have hget : w.get? s = some r := by
    cases s with
    | warning => exact hwarnings.trans hr
    | error => exact herrors.trans hr
  rw [(Aggregator.proper_of_window? h.tidy.sound hw s r hget).1]
  obtain ⟨n, hn, rfl⟩ := Option.map_eq_some_iff.mp hw
  exact (h.tidy.sound.own _ (Aggregator.mem_of_current? hn)).trans (h.named _ hmem)

/-! ## Two reports -/

/-- After calls that all return, both reports have the same records: those of the windows in the order
of the last builds of their modules, and those of the table in the order of the first builds. They are
one list just if the modules with a record were built first in the order in which they were built last,
and so they are if no module was built twice. -/
theorem after_reports (config : Config) (files : List (String × Text.Bytes)) {calls : List Call}
    (h : Completes (fresh config files) calls) (s : Severity) :
    let c := (fresh config files).after calls
    let builds := builtIds calls
    c.aggregator.records s = builds.dedup.filterMap (c.recordOf s) ∧
      c.collectedRecords s = builds.eraseDups.filterMap (c.recordOf s) ∧
      (c.aggregator.records s).Perm (c.collectedRecords s) ∧
      (c.aggregator.records s = c.collectedRecords s ↔
        (builds.dedup.filter fun id => (c.recordOf s id).isSome) =
          builds.eraseDups.filter fun id => (c.recordOf s id).isSome) ∧
      (builds.Nodup → c.aggregator.records s = c.collectedRecords s) := by
  intro c builds
  have hagree : Agreement c := after_agreement (agreement_fresh config files) h
  have hfresh : (fresh config files).Ordered [] := ⟨rfl, rfl⟩
  have hordered : c.Ordered builds := after_ordered (agreement_fresh config files) hfresh h
  have hrecords : c.aggregator.records s = builds.dedup.filterMap (c.recordOf s) := by
    rw [records_eq hagree, hordered.windows]
  have hcollected : c.collectedRecords s = builds.eraseDups.filterMap (c.recordOf s) := by
    rw [collectedRecords_eq hagree, hordered.table]
  refine ⟨hrecords, hcollected, ?_, ?_, fun hbuilds => ?_⟩
  · rw [hrecords, hcollected]
    exact (dedup_perm_eraseDups builds).filterMap _
  · rw [hrecords, hcollected]
    exact filterMap_eq_filterMap_iff (fun _ _ hr => module_recordOf hagree hr) _ _
  · rw [hrecords, hcollected, hbuilds.dedup, eraseDups_of_nodup hbuilds]

/-- A source without any key. -/
def emptyMap : Config := { primary := some (.ofMap "map" []) }

/-- Two modules with a key that is missed. -/
def firstBuilds : List Call := [.one "a.py" "__('a')\n", .one "b.py" "__('b')\n"]

theorem completes_emptyMap : Completes (fresh emptyMap []) (firstBuilds ++ [.one "a.py" "__('a')\n"]) :=
  ⟨by decide, by decide +kernel, by decide, by decide +kernel, by decide, by decide +kernel, trivial⟩

/-- Two modules with a record, built by one call each. -/
theorem after_reports_firstBuilds :
    Completes (fresh emptyMap []) firstBuilds ∧ (builtIds firstBuilds).Nodup ∧
      ((fresh emptyMap []).after firstBuilds).aggregator.records .warning =
        ((fresh emptyMap []).after firstBuilds).collectedRecords .warning ∧
      (((fresh emptyMap []).after firstBuilds).aggregator.records .warning).map Record.module =
        ["a.py", "b.py"] := by
  have h : Completes (fresh emptyMap []) firstBuilds :=
    ⟨by decide, by decide +kernel, by decide, by decide +kernel, trivial⟩
  have hids : (builtIds firstBuilds).Nodup := by decide
  exact ⟨h, hids, (after_reports emptyMap [] h .warning).2.2.2.2 hids, by decide +kernel⟩

/-- The first of two modules is built once more: its record is now the last one of the windows, and it
is still the first one that is collected. -/
theorem records_of_rebuilt :
    ¬ ∀ calls, Completes (fresh emptyMap []) calls →
      ((fresh emptyMap []).after calls).aggregator.records .warning =
        ((fresh emptyMap []).after calls).collectedRecords .warning := by
  intro hall
  have heq := congrArg (List.map Record.module) (hall _ completes_emptyMap)
  revert heq
  decide +kernel

end Compilation

end Localize
