/-
  The calls of a module one by one. Each call of the localization function in its tree is folded, left
  as it is or skipped, by its depth and its shape alone (`Node.Census`). A scan gives one substitution
  for each call that is folded, in reading order, and the module has a build error just where some
  calls are skipped, with the number of these (`ofTree_census`).
-/
import Localize.Proofs.Compilation.Output
import Localize.Proofs.Fold.Census
import Localize.Proofs.Pairs

namespace Localize

open Syntax
open Syntax.Node (Located)

/-- Which calls of a tree a scan folds and which it skips, all with their paths from the root: those
that can be folded within the levels, in reading order, and all of those beyond, each of them once. -/
structure Syntax.Node.Census (name : String) (levels : Nat) (tree : Node)
    (folded skipped : List (List Nat × Node)) : Prop where
  folded_iff : ∀ path call, (path, call) ∈ folded ↔
    tree.at? path = some call ∧ path.length < levels ∧ call.isFoldable name
  ordered : (folded.map Prod.fst).Pairwise (· < ·)
  skipped_iff : ∀ path call, (path, call) ∈ skipped ↔
    tree.at? path = some call ∧ levels ≤ path.length ∧ call.callsName name
  once : (skipped.map Prod.fst).Nodup

theorem census (name : String) (levels : Nat) (tree : Node) :
    tree.Census name levels (foldedTo name levels tree) (beyondTo name levels tree) where
  folded_iff _ _ := mem_foldedTo
  ordered := pairwise_foldedTo name levels tree
  skipped_iff _ _ := mem_beyondTo
  once := nodup_beyondTo name levels tree

/-- What takes the place of a call that is folded. -/
def Substitution.Folds (config : Config) (index : LineIndex) (call : Node) (d : Substitution) : Prop :=
  ∃ s r, CallSite.of? config.functionName index call = .ok (some s) ∧
    resolved config s.miss = .ok r ∧ d = Substitution.of r.value s r.outcome

section Located

variable {config : Config} {index : LineIndex} {tree : Node}

/-- Where every key is resolved, every call site is filled. -/
theorem forall₂_fill? (htotal : config.Total) (ss : List CallSite) :
    List.Forall₂ (fun s d => fill? config s = some d) ss (ss.filterMap (fill? config)) := by
  induction ss with
  | nil => exact .nil
  | cons s ss ih =>
    obtain ⟨r, hr⟩ := resolved_of_answers (htotal s.miss.key)
    have hfill := fill?_eq_some_iff.mpr ⟨r, hr, rfl⟩
    rw [List.filterMap_cons, hfill]
    exact .cons hfill ih

/-- Calls that are folded and what takes their places, one by one. -/
theorem forall₂_folds (h : tree.Located index) (htotal : config.Total) (levels : Nat) :
    List.Forall₂ (fun e d => Substitution.Folds config index e.2 d)
      (foldedTo config.functionName levels tree)
      ((sites config.functionName index levels tree).filterMap (fill? config)) := by
  have hsites := map_eq_map_iff_forall₂.mp (map_foldedTo h config.functionName levels)
  have hfilled := forall₂_fill? htotal (sites config.functionName index levels tree)
  refine (forall₂_comp hsites hfilled).imp fun e d => ?_
  rintro ⟨s, hof, hfill⟩
  obtain ⟨r, hr, hd⟩ := fill?_eq_some_iff.mp hfill
  exact ⟨s, r, hof, hr, hd⟩

theorem length_beyondTo (h : tree.Located index) (name : String) (levels : Nat) :
    (beyondTo name levels tree).length =
      ((stops name index levels tree).flatMap Stop.spans).length := by
  have hlength := congrArg List.length (map_beyondTo h name levels)
  rwa [List.length_map, List.length_map] at hlength

/-- The module of a tree whose calls have their places: its substitutions are those of the scan, and it
has a build error just where calls are skipped. -/
theorem buildTree_of_located (h : tree.Located index) (htotal : config.Total) {w : Window}
    (hw : w.isSealed = false) {id source : String} {mark text : List Char} {m : Module}
    (hm : (buildTree config id source mark text index w tree).result = .ok m) :
    m.dependencies = (sites config.functionName index 150 tree).filterMap (fill? config) ∧
      (beyondTo config.functionName 150 tree = [] → m.buildErrors = []) ∧
      (beyondTo config.functionName 150 tree ≠ [] →
        ∃ location, m.buildErrors =
          [.nesting id 150 (beyondTo config.functionName 150 tree).length location]) := by
  obtain ⟨-, hfilled, hskipped⟩ := yield_of_located config h htotal 150
  have hbody := (buildTree_run config id source mark text index hw tree).1
  rw [hm] at hbody
  obtain ⟨-, hdependencies, hnesting⟩ := Yield.body_ok hbody.symm
  rw [show Guard.traversal.levels = 150 from rfl] at hdependencies hnesting
  obtain ⟨errors, herrors, hnone, hsome⟩ := nestingErrors_of_located h id 150
    fun span hspan => hasCall_of_mem_spans h config.functionName 150 hspan
  rw [hskipped] at hnesting
  have hbuild : errors = m.buildErrors := Except.ok.inj (herrors.symm.trans hnesting)
  have hnil : beyondTo config.functionName 150 tree = [] ↔
      (stops config.functionName index 150 tree).flatMap Stop.spans = [] := by
    rw [← List.length_eq_zero_iff, length_beyondTo h, List.length_eq_zero_iff]
  refine ⟨?_, fun hempty => ?_, fun hne => ?_⟩
  · rw [hdependencies, hfilled]
  · rw [← hbuild]
    exact hnone (hnil.mp hempty)
  · rw [← hbuild, length_beyondTo h]
    exact hsome (mt hnil.mpr hne)

/-- Where calls that do not lie in one another lie apart, the module is built. -/
theorem buildTree_of_wellPlaced (h : tree.WellPlaced index.lines) (htotal : config.Total)
    {w : Window} (hw : w.isSealed = false) (id source : String) (mark : List Char) :
    ∃ m, (buildTree config id source mark index.text index w tree).result = .ok m := by
  obtain ⟨m, hm, -⟩ := body_of_wellPlaced config h htotal id source mark
  exact ⟨m, (buildTree_run config id source mark index.text index hw tree).1.trans hm⟩

/-- A scan of a tree whose calls have their places, with sources that answer every key, accounts for
each call of the localization function: what can be folded at a depth of up to 150 nodes has one
substitution, in reading order, and what lies deeper is skipped, each call once. A module gets one build
error with the number of the skipped calls, if there are any, and it is built where calls that do
not lie in one another lie apart. -/
theorem ofTree_census (h : tree.Located index) (htotal : config.Total) {w : Window}
    (hw : w.isSealed = false) :
    ∃ scan folded skipped,
      Scan.ofTree config index Guard.traversal w tree = (.ok (), scan) ∧
      tree.Census config.functionName 150 folded skipped ∧
      List.Forall₂ (fun e d => Substitution.Folds config index e.2 d) folded
        scan.substitutions.reverse ∧
      List.Forall₂ (fun e span => e.2.spanOf? config.functionName = some span) skipped
        scan.skipped.reverse ∧
      (∀ id source mark m,
        (buildTree config id source mark index.text index w tree).result = .ok m →
          m.dependencies = scan.substitutions.reverse ∧ (skipped = [] → m.buildErrors = []) ∧
          (skipped ≠ [] → ∃ location, m.buildErrors = [.nesting id 150 skipped.length location])) ∧
      (tree.WellPlaced index.lines → ∀ id source mark,
        ∃ m, (buildTree config id source mark index.text index w tree).result = .ok m) := by
  obtain ⟨events, hscan⟩ := ofTree_run config index hw tree
  obtain ⟨hending, hfilled, hskipped⟩ := yield_of_located config h htotal 150
  rw [show Guard.traversal.levels = 150 from rfl, hending] at hscan
  refine ⟨_, foldedTo config.functionName 150 tree, beyondTo config.functionName 150 tree, hscan,
    census config.functionName 150 tree, ?_, ?_, ?_, ?_⟩
  · rw [Yield.substitutions_start, hfilled]
    exact forall₂_folds h htotal 150
  · rw [Yield.skipped_start, hskipped]
    exact map_eq_map_iff_forall₂.mp (map_beyondTo h config.functionName 150)
  · intro id source mark m hm
    rw [Yield.substitutions_start, hfilled]
    exact buildTree_of_located h htotal hw hm
  · exact fun hplaced id source mark => buildTree_of_wellPlaced hplaced htotal hw id source mark

/-- The sample has two calls that are folded in another call that is not. -/
theorem ofTree_census_sample :
    ∃ tree scan folded skipped, treeOf? sample = some tree ∧
      Scan.ofTree sampleConfig (indexOf (textOf sample)) Guard.traversal { module := "a.py" } tree =
        (.ok (), scan) ∧
      tree.Census sampleConfig.functionName 150 folded skipped := by
  obtain ⟨tree, hread, hplaced⟩ := treeOf?_sample
  have hlocated : tree.Located (indexOf (textOf sample)) := Node.WellPlaced.located hplaced
  obtain ⟨scan, folded, skipped, hscan, hcensus, -⟩ :=
    ofTree_census hlocated sampleConfig_total (w := { module := "a.py" }) rfl
  exact ⟨tree, scan, folded, skipped, hread, hscan, hcensus⟩

end Located

end Localize
