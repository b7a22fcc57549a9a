/-
  The records of a module against its substitutions. A build whose window is fresh records just those
  keys that its substitutions say were missed: a record has the keys of certain outcomes, each where it
  comes first, with the place and the default text of the first call that misses it
  (`buildModule_records`). On the way: what a scan writes for one call is told by the outcome of its
  key (`missesOf_entriesFor`), and for all calls by the outcomes of theirs (`missesOf_folds`).
-/
import Localize.Proofs.Compilation.Output
import Localize.Proofs.Json.Values
import Mathlib.Data.List.Find

namespace Localize

open Syntax
open Window (missesOf)

/-! ## What the outcome of a key says -/

/-- Whether a key that is resolved in this way is recorded with a severity. -/
def Outcome.recordedAs : Outcome → Severity → Bool
  | .fallback, .warning => true
  | .noFallback, .warning => true
  | .fallbackMissed, _ => true
  | _, _ => false

/-- Whether the default text stands in because no source that was asked has the key. -/
def Outcome.leavesDefault : Outcome → Bool
  | .fallbackMissed | .noFallback => true
  | _ => false

section Resolved

variable {config : Config} {m : Miss} {r : Resolution}

theorem resolvedOther_cases {fallback : Option Source} (h : resolvedOther fallback m = .ok r) :
    (fallback = none ∧ r = ⟨.text m.text, .noFallback⟩) ∨
      (lacks fallback m.key = false ∧ ∃ value, r = ⟨value, .fallback⟩) ∨
      (lacks fallback m.key = true ∧ r = ⟨.text m.text, .fallbackMissed⟩) := by
  unfold resolvedOther at h
  rcases fallback with _ | source
  · exact .inl ⟨rfl, (Except.ok.inj h).symm⟩
  · rw [lacks_some]
    dsimp only at h
    rcases hanswer : source.resolve m.key with f | (_ | value)
    · rw [hanswer] at h
      cases h
    · rw [hanswer] at h
      exact .inr (.inr ⟨rfl, (Except.ok.inj h).symm⟩)
    · rw [hanswer] at h
      exact .inr (.inl ⟨rfl, value, (Except.ok.inj h).symm⟩)

/-- How a key can be resolved, and which sources lack it then. -/
theorem resolved_cases (h : resolved config m = .ok r) :
    (config.primary = none ∧ r = ⟨.text m.text, .disabled⟩) ∨
      (lacks config.primary m.key = false ∧ ∃ value, r = ⟨value, .primary⟩) ∨
      (lacks config.primary m.key = true ∧ resolvedOther config.fallback m = .ok r) := by
  unfold resolved at h
  rcases hprimary : config.primary with _ | source
  · rw [hprimary] at h
    exact .inl ⟨rfl, (Except.ok.inj h).symm⟩
  · rw [hprimary] at h
    rw [lacks_some]
    dsimp only at h
    rcases hanswer : source.resolve m.key with f | (_ | value)
    · rw [hanswer] at h
      cases h
    · rw [hanswer] at h
      exact .inr (.inr ⟨rfl, h⟩)
    · rw [hanswer] at h
      exact .inr (.inl ⟨rfl, value, (Except.ok.inj h).symm⟩)

/-- What is written for a call is told by the outcome of its key. -/
theorem missesOf_entriesFor (h : resolved config m = .ok r) (s : Severity) :
    missesOf s (entriesFor config m) = if r.outcome.recordedAs s then [m] else [] := by
  unfold entriesFor
  rcases resolved_cases h with ⟨hnone, rfl⟩ | ⟨hlacks, value, rfl⟩ | ⟨hlacks, hother⟩
  · rw [hnone]
    rfl
  · rw [hlacks]
    rfl
  · rw [hlacks]
    unfold entriesOther
    rcases resolvedOther_cases hother with ⟨hnone, rfl⟩ | ⟨hlacks', value, rfl⟩ | ⟨hlacks', rfl⟩
    · rw [hnone]
      cases s <;> rfl
    · rw [hlacks']
      cases s <;> rfl
    · rw [hlacks']
      cases s <;> rfl

theorem value_of_leavesDefault (h : resolved config m = .ok r)
    (hdefault : r.outcome.leavesDefault = true) : r.value = .text m.text := by
  rcases resolved_cases h with ⟨-, rfl⟩ | ⟨-, value, rfl⟩ | ⟨-, hother⟩
  · rfl
  · cases hdefault
  · rcases resolvedOther_cases hother with ⟨-, rfl⟩ | ⟨-, value, rfl⟩ | ⟨-, rfl⟩
    · rfl
    · cases hdefault
    · rfl

/-- What is an error for a call is a warning that the fallback does not answer either. -/
theorem missesOf_error (config : Config) (m : Miss) :
    missesOf .error (entriesFor config m) =
      (missesOf .warning (entriesFor config m)).filter (lacks config.fallback ·.key) := by
  unfold entriesFor entriesOther
  rcases lacks config.primary m.key with _ | _
  · rfl
  · rcases hlacks : lacks config.fallback m.key with _ | _
    · simp [missesOf, hlacks]
    · simp [missesOf, hlacks]

end Resolved

/-! ## All calls of a scan -/

theorem missesOf_flatMap {α : Type} (s : Severity) (f : α → List Entry) (as : List α) :
    missesOf s (as.flatMap f) = as.flatMap fun a => missesOf s (f a) := by
  unfold missesOf
  rw [List.filter_flatMap, List.map_flatMap]

/-- Call sites with what takes their places. -/
def folds (config : Config) (ss : List CallSite) : List (CallSite × Substitution) :=
  ss.filterMap fun s => (fill? config s).map (s, ·)

theorem map_snd_folds (config : Config) (ss : List CallSite) :
    (folds config ss).map Prod.snd = ss.filterMap (fill? config) := by
  unfold folds
  rw [List.map_filterMap]
  congr 1
  funext s
  rw [Option.map_map]
  exact Option.map_id'

theorem mem_folds {config : Config} {ss : List CallSite} {p : CallSite × Substitution}
    (h : p ∈ folds config ss) :
    p.1 ∈ ss ∧ ∃ r, resolved config p.1.miss = .ok r ∧ p.2 = Substitution.of r.value p.1 r.outcome := by
  obtain ⟨s, hs, hp⟩ := List.mem_filterMap.mp h
  obtain ⟨d, hfill, rfl⟩ := Option.map_eq_some_iff.mp hp
  exact ⟨hs, fill?_eq_some_iff.mp hfill⟩

/-- What is written for calls is told by the outcomes of their keys. -/
theorem missesOf_folds {config : Config} {ss : List CallSite}
    (h : ∀ s ∈ ss, ∃ r, resolved config s.miss = .ok r) (severity : Severity) :
    missesOf severity (ss.flatMap fun s => entriesFor config s.miss) =
      ((folds config ss).filter (·.2.outcome.recordedAs severity)).map (·.1.miss) := by
  induction ss with
  | nil => rfl
  | cons s ss ih =>
    obtain ⟨r, hr⟩ := h s List.mem_cons_self
    have hrest := ih fun t ht => h t (List.mem_cons_of_mem _ ht)
    have hfill : fill? config s = some (Substitution.of r.value s r.outcome) :=
      fill?_eq_some_iff.mpr ⟨r, hr, rfl⟩
    rw [missesOf_flatMap] at hrest ⊢
    rw [List.flatMap_cons, missesOf_entriesFor hr, hrest]
    have hfolds : folds config (s :: ss) =
        (s, Substitution.of r.value s r.outcome) :: folds config ss := by
      rw [folds, List.filterMap_cons, hfill]
      rfl
    rw [hfolds, List.filter_cons]
    show _ = (if r.outcome.recordedAs severity then _ else _ : List _).map _
    split
    · rfl
    · rfl

theorem missesOf_error_flatMap (config : Config) (ss : List CallSite) :
    missesOf .error (ss.flatMap fun s => entriesFor config s.miss) =
      (missesOf .warning (ss.flatMap fun s => entriesFor config s.miss)).filter
        (lacks config.fallback ·.key) := by
  rw [missesOf_flatMap, missesOf_flatMap, List.filter_flatMap]
  exact List.flatMap_congr fun s _ => missesOf_error config s.miss

/-! ## The records of a module -/

/-- The record of a module for a severity is that of certain calls, which are given with what takes their
places: there is none without a key in it, and its keys are those of the calls, each where it comes
first. -/
structure Module.Recorded (m : Module) (id : String) (severity : Severity)
    (missed : List (CallSite × Substitution)) : Prop where
  own : ∀ r, m.record? severity = some r → r.module = id ∧ r.severity = severity ∧ r.misses ≠ []
  keys : (m.misses severity).map Miss.key = (missed.map (·.2.key)).eraseDups
  /-- What stands with a key is what the first call that misses it has. -/
  first : ∀ x ∈ m.misses severity, ∃ site d, missed.find? (·.2.key = x.key) = some (site, d) ∧
    x.location = some d.location ∧ x.text = site.text ∧
    (d.outcome.leavesDefault → d.value = .ok (.text x.text))

/-- A record is that of some calls if what it holds was kept of their misses. -/
theorem Module.recorded_of_misses (config : Config) {m : Module} {id : String} {severity : Severity}
    {missed : List (CallSite × Substitution)}
    (hown : ∀ r, m.record? severity = some r →
      r.module = id ∧ r.severity = severity ∧ r.misses ≠ [])
    (hmisses : m.misses severity = (missed.map (·.1.miss)).foldl keep [])
    (hof : ∀ p ∈ missed, ∃ r, resolved config p.1.miss = .ok r ∧
      p.2 = Substitution.of r.value p.1 r.outcome) :
    m.Recorded id severity missed := by
  have hkey : ∀ p ∈ missed, p.1.key = p.2.key := by
    intro p hp
    obtain ⟨r, -, hd⟩ := hof p hp
    rw [hd]
    rfl
  refine ⟨hown, ?_, ?_⟩
  · rw [hmisses, keys_foldl_keep, List.map_map]
    exact congrArg List.eraseDups (List.map_congr_left hkey)
  · intro x hx
    rw [hmisses] at hx
    have hfirst := find?_of_mem_foldl_keep hx
    rw [List.find?_map, Option.map_eq_some_iff] at hfirst
    obtain ⟨p, hfind, rfl⟩ := hfirst
    obtain ⟨r, hr, hd⟩ := hof p (List.mem_of_find?_eq_some hfind)
    refine ⟨p.1, p.2, ?_, ?_, rfl, ?_⟩
    · rw [← hfind]
      refine List.find?_congr fun q hq => ?_
      rw [← hkey q hq]
      rfl
    · rw [hd]
      rfl
    · intro hdefault
      rw [hd] at hdefault ⊢
      have hvalue : r.value = .text p.1.text := value_of_leavesDefault hr hdefault
      rw [hvalue]
      exact Json.read_string p.1.text

namespace Compilation

/-- The call sites that a build folds. -/
def foldedSites (config : Config) (source : String) (tree : Node) : List CallSite :=
  sites config.functionName (indexOf (textOf source)) Guard.traversal.levels tree

section Fresh

variable {c : Compilation} {id source : String} {tree : Node} {m : Module}

/-- The records of a build in a fresh window are those of a new window that takes its entries. -/
theorem record?_of_buildModule (hfresh : c.aggregator.Fresh id)
    (h : (c.buildModule id source).2 = .ok m) (severity : Severity) :
    m.record? severity =
      (Window.recordAll { module := id } (entriesOf c.config source)).get? severity := by
  rw [buildModule_of_fresh hfresh] at h
  rcases hbody : bodyOf c.config c.files id source with f | body
  · rw [hbody] at h
    cases h
  · rw [hbody] at h
    cases h
    rw [Module.record?_withRecords, written]

/-- A build in a fresh window leaves records of its own module only. -/
theorem own_of_buildModule (hfresh : c.aggregator.Fresh id)
    (h : (c.buildModule id source).2 = .ok m) (severity : Severity) (r : Record)
    (hr : m.record? severity = some r) :
    r.module = id ∧ r.severity = severity ∧ r.misses ≠ [] := by
  rw [record?_of_buildModule hfresh h] at hr
  have hown := (Window.proper_empty id false).recordAll (entriesOf c.config source) severity r hr
  rwa [Window.module_recordAll] at hown

/-- What a build in a fresh window leaves: all call sites are resolved and filled, and the records are
those of a new window that takes their entries. -/
theorem of_buildModule (hread : treeOf? source = some tree) (hfresh : c.aggregator.Fresh id)
    (h : (c.buildModule id source).2 = .ok m) :
    (∀ s ∈ foldedSites c.config source tree, ∃ r, resolved c.config s.miss = .ok r) ∧
      m.dependencies = (foldedSites c.config source tree).filterMap (fill? c.config) ∧
      ∀ severity, m.record? severity =
        (Window.recordAll { module := id } ((foldedSites c.config source tree).flatMap fun s =>
          entriesFor c.config s.miss)).get? severity := by
  have hrecord := record?_of_buildModule hfresh h
  rw [buildModule_of_fresh hfresh, bodyOf_of_tree c.config c.files id hread] at h
  rcases hbody : (scanOf c.config (textOf source) tree).body id source (markOf source)
    (textOf source) (indexOf (textOf source)) with f | body
  · rw [hbody] at h
    cases h
  · rw [hbody] at h
    cases h
    obtain ⟨hending, hdependencies, -⟩ := Yield.body_ok hbody
    have hfeasible := feasible_of_ending hending
    obtain ⟨-, hfilled, -, hentries⟩ := Yield.of_feasible hfeasible
    refine ⟨fun s hs => ?_, hdependencies.trans hfilled, fun severity => ?_⟩
    · obtain ⟨stop, hstop, hsite⟩ := List.mem_filterMap.mp hs
      cases stop with
      | site t =>
        cases hsite
        exact hfeasible.resolved hstop
      | _ => cases hsite
    · have hwritten : entriesOf c.config source = (foldedSites c.config source tree).flatMap fun s =>
          entriesFor c.config s.miss := by
        rw [entriesOf, hread]
        exact hentries
      rw [hrecord, hwritten]

/-- The misses in the records of a build in a fresh window. -/
theorem misses_of_buildModule (hread : treeOf? source = some tree) (hfresh : c.aggregator.Fresh id)
    (h : (c.buildModule id source).2 = .ok m) (severity : Severity) :
    m.misses severity =
      (missesOf severity ((foldedSites c.config source tree).flatMap fun s =>
        entriesFor c.config s.miss)).foldl keep [] := by
  obtain ⟨-, -, hrecord⟩ := of_buildModule hread hfresh h
  rw [Module.misses, hrecord]
  have hnil : (Window.mk id false none none).misses severity = [] := by cases severity <;> rfl
  exact (Window.misses_recordAll { module := id } _ severity).trans (by rw [hnil])

theorem sublist_of_buildModule (hread : treeOf? source = some tree)
    (hfresh : c.aggregator.Fresh id) (h : (c.buildModule id source).2 = .ok m) :
    (m.misses .error).Sublist (m.misses .warning) := by
  rw [misses_of_buildModule hread hfresh h, misses_of_buildModule hread hfresh h,
    missesOf_error_flatMap, foldl_keep_filter]
  exact List.filter_sublist

theorem recorded_of_buildModule (hread : treeOf? source = some tree)
    (hfresh : c.aggregator.Fresh id) (h : (c.buildModule id source).2 = .ok m)
    (severity : Severity) :
    m.Recorded id severity ((folds c.config (foldedSites c.config source tree)).filter
      (·.2.outcome.recordedAs severity)) := by
  obtain ⟨hresolved, -, -⟩ := of_buildModule hread hfresh h
  refine Module.recorded_of_misses c.config (own_of_buildModule hfresh h severity) ?_ ?_
  · rw [misses_of_buildModule hread hfresh h, missesOf_folds hresolved]
  · exact fun p hp => (mem_folds (List.mem_filter.mp hp).1).2

theorem record?_of_disabled (hread : treeOf? source = some tree) (hfresh : c.aggregator.Fresh id)
    (h : (c.buildModule id source).2 = .ok m) (hprimary : c.config.primary = none)
    (severity : Severity) : m.record? severity = none := by
  obtain ⟨-, -, hrecord⟩ := of_buildModule hread hfresh h
  have hnothing : ∀ s : CallSite, entriesFor c.config s.miss = [] := by
    intro s
    rw [entriesFor, hprimary]
    rfl
  rw [hrecord, List.flatMap_eq_nil_iff.mpr fun s _ => hnothing s]
  cases severity <;> rfl

/-- The records of a module that is built in a fresh window are told by its substitutions, each of
which goes with a call that is folded. The warnings have the keys that the first source lacks and the
errors those that the fallback lacks too, each where it comes first; what stands with a key is the
place and the default text of its first call, and the text that its literal denotes where that is the
default. So the errors are among the warnings in the same order, and without a first source there are no
records. The module is built where its calls have their places and the sources answer every key. -/
theorem buildModule_records (hread : treeOf? source = some tree) (hfresh : c.aggregator.Fresh id) :
    (∀ m, (c.buildModule id source).2 = .ok m →
      (∃ calls : List (CallSite × Substitution), calls.map Prod.snd = m.dependencies ∧
        (∀ p ∈ calls,
          (∃ path, tree.FoldedAt c.config.functionName (indexOf (textOf source))
            Guard.traversal.levels path p.1) ∧
          ∃ r, resolved c.config p.1.miss = .ok r ∧ p.2 = Substitution.of r.value p.1 r.outcome) ∧
        ∀ severity, m.Recorded id severity (calls.filter (·.2.outcome.recordedAs severity))) ∧
      (m.misses .error).Sublist (m.misses .warning) ∧
      (c.config.primary = none → m.warnings = none ∧ m.errors = none)) ∧
    (tree.WellPlaced (splitLines (textOf source)) → c.config.Total →
      ∃ m, (c.buildModule id source).2 = .ok m) := by
  constructor
  · intro m hm
    obtain ⟨-, hdependencies, -⟩ := of_buildModule hread hfresh hm
    refine ⟨⟨folds c.config (foldedSites c.config source tree), ?_, ?_, ?_⟩, ?_, ?_⟩
    · rw [map_snd_folds, hdependencies]
    · intro p hp
      obtain ⟨hsite, hfold⟩ := mem_folds hp
      exact ⟨exists_foldedAt hsite, hfold⟩
    · exact recorded_of_buildModule hread hfresh hm
    · exact sublist_of_buildModule hread hfresh hm
    · intro hprimary
      have hnone := record?_of_disabled hread hfresh hm hprimary
      exact ⟨hnone .warning, hnone .error⟩
  · intro hplaced htotal
    obtain ⟨m, hbody, -⟩ := bodyOf_output c.config c.files id hread hplaced htotal
    rw [buildModule_of_fresh hfresh, hbody]
    exact ⟨_, rfl⟩

end Fresh

/-- A source that misses a key twice, with two default texts, and another key once. -/
def missing : String := "p(__('A', 'x'), __('B', 'x'), __('b'))\n"

/-- Sources of which the first has no keys and the fallback has one of the two. -/
def missingConfig : Config where
  primary := some (.ofTable "table" [])
  fallback := some (.ofTable "other" [("b", .text "c")])

/-- Both keys are warnings and one of them is an error, with the default text of its first call. -/
theorem buildModule_records_missing :
    ∃ tree m, treeOf? missing = some tree ∧
      (fresh missingConfig []).aggregator.Fresh "a.py" ∧
      ((fresh missingConfig []).buildModule "a.py" missing).2 = .ok m ∧
      (m.misses .warning).map (fun x => (x.key, x.text)) = [("x", "A"), ("b", "b")] ∧
      (m.misses .error).map (fun x => (x.key, x.text)) = [("x", "A")] ∧
      (m.misses .error).Sublist (m.misses .warning) := by
  have hfresh : (fresh missingConfig []).aggregator.Fresh "a.py" := Aggregator.fresh_empty "a.py"
  have hsome : (treeOf? missing).isSome = true := by decide +kernel
  obtain ⟨tree, hread⟩ := Option.isSome_iff_exists.mp hsome
  have hmisses : (((fresh missingConfig []).buildModule "a.py" missing).2.toOption.map fun m =>
      ((m.misses .warning).map fun x => (x.key, x.text),
        (m.misses .error).map fun x => (x.key, x.text))) =
      some ([("x", "A"), ("b", "b")], [("x", "A")]) := by decide +kernel
  obtain ⟨m, hm, htexts⟩ := Option.map_eq_some_iff.mp hmisses
  obtain ⟨hwarnings, herrors⟩ := Prod.mk.inj htexts
  rcases hbuild : ((fresh missingConfig []).buildModule "a.py" missing).2 with f | built
  · rw [hbuild] at hm
    cases hm
  · rw [hbuild] at hm
    cases hm
    obtain ⟨-, hsublist, -⟩ := (buildModule_records hread hfresh).1 m hbuild
    exact ⟨tree, m, hread, hfresh, rfl, hwarnings, herrors, hsublist⟩

end Compilation

end Localize
