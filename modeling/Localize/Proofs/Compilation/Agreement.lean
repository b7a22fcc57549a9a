/-
  The windows of a compilation and its table of modules. Both hold the records of the modules, and
  they are changed at different moments: a window when its module is built, the table when a call
  returns. As long as each call returns they tell the same (`run_agreement`, `after_agreement`), and
  so there are errors just where a diagnostic of the modules is one (`Agreement.hasErrors_iff`).
-/
import Localize.Proofs.Compilation.Windows
import Localize.Proofs.Table

namespace Localize

namespace Aggregator

theorem proper_of_window? {a : Aggregator} (h : a.Sound) {module : String} {w : Window}
    (hw : a.window? module = some w) : w.Proper := by
  unfold window? at hw
  obtain ⟨n, hn, rfl⟩ := Option.map_eq_some_iff.mp hw
  exact h.proper _ (mem_of_current? hn)

/-- There are errors just where the window of a module has some. -/
theorem hasErrors_iff {a : Aggregator} (h : a.Tidy) :
    a.hasErrors = true ↔ ∃ module w, a.window? module = some w ∧ w.errors ≠ none := by
  have hrecords : a.hasErrors = true ↔ ∃ r, r ∈ a.records .error := by
    unfold hasErrors
    rcases a.records .error with _ | ⟨r, rest⟩
    · exact ⟨nofun, nofun⟩
    · exact ⟨fun _ => ⟨r, List.mem_cons_self⟩, fun _ => rfl⟩
  rw [hrecords]
  constructor
  · rintro ⟨r, hr⟩
    obtain ⟨e, he, hget⟩ := List.mem_filterMap.mp hr
    refine ⟨e.1, a.window e.2, window?_of_current ((h.mem_current he).mp rfl), ?_⟩
    intro hnone
    have hget' : (a.window e.2).errors = some r := hget
    rw [hnone] at hget'
    cases hget'
  · rintro ⟨module, w, hw, herrors⟩
    obtain ⟨r, hr⟩ := Option.ne_none_iff_exists'.mp herrors
    unfold window? at hw
    obtain ⟨n, hn, rfl⟩ := Option.map_eq_some_iff.mp hw
    exact ⟨r, List.mem_filterMap.mpr ⟨(module, n), mem_of_current? hn, hr⟩⟩

end Aggregator

/-! ## Diagnostics of a module -/

namespace Module

variable {m : Module}

/-- A module whose build errors are errors, and whose records are those of a window. -/
structure Severe (m : Module) : Prop where
  buildErrors : ∀ e ∈ m.buildErrors, e.diagnostic.severity = .error
  warnings : ∀ r ∈ m.warnings, r.severity = .warning
  errors : ∀ r ∈ m.errors, r.severity = .error ∧ r.misses ≠ []

/-- A module has a diagnostic that is an error just if it could not be built in full or has errors in
its records. -/
theorem Severe.exists_error_iff (h : m.Severe) :
    (∃ d ∈ m.diagnostics, d.severity = .error) ↔ m.buildErrors ≠ [] ∨ m.errors ≠ none := by
  constructor
  · rintro ⟨d, hd, hseverity⟩
    rcases List.mem_append.mp hd with hd | hd
    · exact .inl (List.ne_nil_of_mem (List.exists_of_mem_map hd).choose_spec.1)
    · obtain ⟨r, hr, hd⟩ := List.mem_flatMap.mp hd
      obtain ⟨miss, -, rfl⟩ := List.mem_map.mp hd
      rcases List.mem_append.mp hr with hr | hr
      · have hwarning := h.warnings r (Option.mem_toList.mp hr)
        rw [show (r.diagnostic miss).severity = r.severity from rfl, hwarning] at hseverity
        cases hseverity
      · refine .inr fun hnone => ?_
        rw [hnone] at hr
        cases hr
  · rintro (hne | hne)
    · obtain ⟨e, he⟩ := List.exists_mem_of_ne_nil _ hne
      exact ⟨e.diagnostic, List.mem_append_left _ (List.mem_map_of_mem he), h.buildErrors e he⟩
    · obtain ⟨r, hr⟩ := Option.ne_none_iff_exists'.mp hne
      obtain ⟨hseverity, hmisses⟩ := h.errors r hr
      obtain ⟨miss, hmiss⟩ := List.exists_mem_of_ne_nil _ hmisses
      refine ⟨r.diagnostic miss, List.mem_append_right _ (List.mem_flatMap.mpr ⟨r, ?_, ?_⟩), hseverity⟩
      · exact List.mem_append_right _ (Option.mem_toList.mpr hr)
      · exact List.mem_map_of_mem hmiss

end Module

namespace Compilation

/-! ## The table of modules -/

section Stored

variable {table : List (String × Module)} {ms : List Module}

theorem stored_cons (table : List (String × Module)) (m : Module) (ms : List Module) :
    stored table (.ok (m :: ms)) = stored (setEntry m.id m table) (.ok ms) := rfl

theorem nodup_stored (h : (table.map Prod.fst).Nodup) (ms : List Module) :
    ((stored table (.ok ms)).map Prod.fst).Nodup := by
  induction ms generalizing table with
  | nil => exact h
  | cons m ms ih => exact ih (nodup_setEntry h m.id m)

theorem mem_keys_stored {id : String} :
    id ∈ (stored table (.ok ms)).map Prod.fst ↔ id ∈ table.map Prod.fst ∨ id ∈ ms.map Module.id := by
  induction ms generalizing table with
  | nil => exact ⟨.inl, fun h => h.resolve_right List.not_mem_nil⟩
  | cons m ms ih =>
    rw [stored_cons, ih, mem_keys_setEntry, List.map_cons, List.mem_cons, or_right_comm, or_comm]

/-- What is in the table when modules are stored: these, and what was there under other names. -/
theorem mem_stored (h : (table.map Prod.fst).Nodup) {e : String × Module}
    (he : e ∈ stored table (.ok ms)) :
    (e.1 = e.2.id ∧ e.2 ∈ ms) ∨ (e ∈ table ∧ e.1 ∉ ms.map Module.id) := by
  induction ms generalizing table with
  | nil => exact .inr ⟨he, List.not_mem_nil⟩
  | cons m ms ih =>
    rcases ih (nodup_setEntry h m.id m) he with ⟨hid, hmem⟩ | ⟨hold, hnot⟩
    · exact .inl ⟨hid, List.mem_cons_of_mem _ hmem⟩
    · rcases (mem_setEntry h).mp hold with rfl | ⟨hmem, hne⟩
      · exact .inl ⟨rfl, List.mem_cons_self⟩
      · refine .inr ⟨hmem, fun hid => ?_⟩
        rcases List.mem_cons.mp hid with hid | hid
        · exact hne hid
        · exact hnot hid

/-- Modules of different names are stored one behind the other. -/
theorem stored_of_nodup (h : (table.map Prod.fst ++ ms.map Module.id).Nodup) :
    stored table (.ok ms) = table ++ ms.map fun m => (m.id, m) := by
  induction ms generalizing table with
  | nil => exact (List.append_nil table).symm
  | cons m ms ih =>
    have hnot : m.id ∉ table.map Prod.fst := by
      rw [List.nodup_append] at h
      exact fun hmem => h.2.2 m.id hmem m.id List.mem_cons_self rfl
    rw [stored_cons, setEntry_of_not_mem hnot, ih]
    · rw [List.append_assoc]
      rfl
    · rw [List.map_append, List.append_assoc]
      exact h

end Stored

/-! ## Agreement -/

/-- The windows and the table of modules tell the same: the same modules are in both, and the window of
each is sealed with the records of the module. -/
structure Agreement (c : Compilation) : Prop where
  tidy : c.aggregator.Tidy
  distinct : (c.modules.map Prod.fst).Nodup
  windows : ∀ id, c.aggregator.contains id = true ↔ id ∈ c.modules.map Prod.fst
  named : ∀ e ∈ c.modules, e.2.id = e.1
  sealed : ∀ e ∈ c.modules, c.aggregator.Seals e.2
  buildErrors : ∀ e ∈ c.modules, ∀ b ∈ e.2.buildErrors, b.diagnostic.severity = .error

theorem agreement_fresh (config : Config) (files : List (String × Text.Bytes)) :
    Agreement (fresh config files) where
  tidy := Aggregator.tidy_empty
  distinct := List.nodup_nil
  windows := fun _ => ⟨nofun, nofun⟩
  named := nofun
  sealed := nofun
  buildErrors := nofun

section Agreement

variable {c : Compilation}

theorem ids_of_built {jobs : List (String × String)} {ms : List Module}
    (h : List.Forall₂ (Built c) jobs ms) : ms.map Module.id = jobs.map Prod.fst :=
  (map_eq_map_iff_forall₂.mpr (h.imp fun _ _ hm => hm.id.symm)).symm

/-- What is in the table after a call that returns: the modules that it has built, and what was there under
other names. -/
theorem mem_modules_run (h : Agreement c) {call : Call} (hids : (call.sources.map Prod.fst).Nodup)
    {ms : List Module} (hok : (call.run c).2 = .ok ms) {e : String × Module}
    (he : e ∈ (call.run c).1.modules) :
    (e.1 = e.2.id ∧ ∃ job ∈ call.sources,
      Built { (call.run c).1 with modules := c.modules } job e.2) ∨
    (e ∈ c.modules ∧ e.1 ∉ call.sources.map Prod.fst) := by
  obtain ⟨hdone, hstored⟩ := run_done h.tidy hids
  have hbuilt := hdone.built ms hok
  rw [hstored, hok] at he
  rw [← ids_of_built hbuilt]
  exact (mem_stored h.distinct he).imp_left fun hnew =>
    ⟨hnew.1, exists_of_mem_forall₂ hbuilt.flip hnew.2⟩

/-- A call that returns keeps the windows and the table in agreement. -/
theorem run_agreement (h : Agreement c) {call : Call} (hids : (call.sources.map Prod.fst).Nodup)
    {ms : List Module} (hok : (call.run c).2 = .ok ms) : Agreement (call.run c).1 := by
  obtain ⟨hdone, hstored⟩ := run_done h.tidy hids
  rw [hok] at hstored
  have hbuilt := hdone.built ms hok
  have hms := ids_of_built hbuilt
  have hothers := hdone.keeps.others
  dsimp only at hothers
  constructor
  · exact hdone.keeps.tidy
  · rw [hstored]
    exact nodup_stored h.distinct ms
  · intro id
    rw [hstored, mem_keys_stored, hms, Aggregator.contains_iff]
    by_cases hid : id ∈ call.sources.map Prod.fst
    · obtain ⟨job, hjob, rfl⟩ := List.mem_map.mp hid
      obtain ⟨m, -, hm⟩ := exists_of_mem_forall₂ hbuilt hjob
      obtain ⟨w, hw, -⟩ := hm.seals
      exact ⟨fun _ => .inr hid, fun _ => ⟨w, hm.id ▸ hw⟩⟩
    · rw [hothers id hid, ← Aggregator.contains_iff, h.windows]
      exact ⟨.inl, fun hmem => hmem.resolve_right hid⟩
  · intro e he
    rcases mem_modules_run h hids hok he with ⟨hid, -⟩ | ⟨hold, -⟩
    · exact hid.symm
    · exact h.named e hold
  · intro e he
    rcases mem_modules_run h hids hok he with ⟨-, job, -, hnew⟩ | ⟨hold, hnot⟩
    · exact hnew.seals
    · have hsame := hothers e.2.id (h.named e hold ▸ hnot)
      unfold Aggregator.Seals
      rw [hsame]
      exact h.sealed e hold
  · intro e he
    rcases mem_modules_run h hids hok he with ⟨-, job, -, hnew⟩ | ⟨hold, -⟩
    · obtain ⟨body, w, hbody, hm⟩ := hnew.isBody
      rw [hm]
      exact hbody.severe
    · exact h.buildErrors e hold

/-- Calls of which each returns when the ones before it have been made. -/
def Completes (c : Compilation) : List Call → Prop
  | [] => True
  | call :: calls => (call.sources.map Prod.fst).Nodup ∧ (call.run c).2.isOk = true ∧
      Completes (call.run c).1 calls

/-- Calls that all return keep the windows and the table in agreement. -/
theorem after_agreement (h : Agreement c) {calls : List Call} (hcalls : Completes c calls) :
    Agreement (c.after calls) := by
  unfold after
  induction calls generalizing c with
  | nil => exact h
  | cons call calls ih =>
    obtain ⟨hids, hok, hrest⟩ := hcalls
    rcases hrun : (call.run c).2 with f | ms
    · rw [hrun] at hok
      cases hok
    · exact ih (run_agreement h hids hrun) hrest

/-! ## Errors -/

theorem Agreement.severe (h : Agreement c) {e : String × Module} (he : e ∈ c.modules) :
    e.2.Severe := by
  obtain ⟨w, hw, -, hwarnings, herrors⟩ := h.sealed e he
  have hproper := Aggregator.proper_of_window? h.tidy.sound hw
  refine ⟨h.buildErrors e he, fun r hr => ?_, fun r hr => ?_⟩
  · exact (hproper .warning r (hwarnings.trans hr)).2.1
  · exact (hproper .error r (herrors.trans hr)).2

/-- A window has errors just if a module of the table has. -/
theorem Agreement.exists_window_iff (h : Agreement c) :
    c.aggregator.hasErrors = true ↔ ∃ e ∈ c.modules, e.2.errors ≠ none := by
  rw [Aggregator.hasErrors_iff h.tidy]
  constructor
  · rintro ⟨id, w, hw, hne⟩
    obtain ⟨e, he, rfl⟩ := List.mem_map.mp ((h.windows id).mp (Aggregator.contains_iff.mpr ⟨w, hw⟩))
    obtain ⟨w', hw', -, -, herrors⟩ := h.sealed e he
    rw [h.named e he, hw] at hw'
    cases hw'
    exact ⟨e, he, herrors ▸ hne⟩
  · rintro ⟨e, he, hne⟩
    obtain ⟨w, hw, -, -, herrors⟩ := h.sealed e he
    exact ⟨e.2.id, w, hw, herrors ▸ hne⟩

/-- A diagnostic is an error just if a module of the table could not be built in full or has errors. -/
theorem Agreement.exists_error_iff (h : Agreement c) :
    (∃ d ∈ c.diagnostics, d.severity = .error) ↔
      ∃ e ∈ c.modules, e.2.buildErrors ≠ [] ∨ e.2.errors ≠ none := by
  unfold diagnostics collect
  constructor
  · rintro ⟨d, hd, hseverity⟩
    obtain ⟨m, hm, hd⟩ := List.mem_flatMap.mp hd
    obtain ⟨e, he, rfl⟩ := List.mem_map.mp hm
    exact ⟨e, he, (h.severe he).exists_error_iff.mp ⟨d, hd, hseverity⟩⟩
  · rintro ⟨e, he, herror⟩
    obtain ⟨d, hd, hseverity⟩ := (h.severe he).exists_error_iff.mpr herror
    exact ⟨d, List.mem_flatMap.mpr ⟨e.2, List.mem_map_of_mem he, hd⟩, hseverity⟩

/-- There are errors just if a diagnostic of a module is one. -/
theorem Agreement.hasErrors_iff (h : Agreement c) :
    c.hasErrors = true ↔ ∃ d ∈ c.diagnostics, d.severity = .error := by
  have hbuild : (!c.buildErrors.isEmpty) = true ↔ ∃ e ∈ c.modules, e.2.buildErrors ≠ [] := by
    unfold Compilation.buildErrors
    rw [Bool.not_eq_true', List.isEmpty_eq_false_iff, ne_eq, List.flatMap_eq_nil_iff]
    simp
  rw [hasErrors, Bool.or_eq_true, h.exists_window_iff, hbuild, h.exists_error_iff]
  constructor
  · rintro (⟨e, he, hne⟩ | ⟨e, he, hne⟩)
    · exact ⟨e, he, .inr hne⟩
    · exact ⟨e, he, .inl hne⟩
  · rintro ⟨e, he, hne | hne⟩
    · exact .inr ⟨e, he, hne⟩
    · exact .inl ⟨e, he, hne⟩

end Agreement

end Compilation

end Localize
