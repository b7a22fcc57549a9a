/-
  What the limit on nesting costs. A scan by a guard whose limit no tree comes to folds what the limited scan
  folds, and besides the calls beyond the limit that can be folded (`length_foldedTo`). What is reported are
  all calls beyond the limit, those among them too that no scan folds (`perm_lostTo`). So the report tells
  what the limit costs just where every call beyond it can be folded (`ofTree_unlimited`).
-/
import Localize.Proofs.Compilation.Census

namespace Localize

open Syntax
open Syntax.Node (Located)

section Lost

variable {name : String} {limit levels : Nat} {tree : Node}

/-- Where no node is too deep, a scan folds all calls that can be folded. -/
theorem mem_foldedTo_of_height (hheight : tree.height ≤ levels) {path : List Nat} {n : Node} :
    (path, n) ∈ foldedTo name levels tree ↔ tree.at? path = some n ∧ n.isFoldable name := by
  rw [mem_foldedTo]
  constructor
  · exact fun ⟨hat, _, hfold⟩ => ⟨hat, hfold⟩
  · exact fun ⟨hat, hfold⟩ => ⟨hat, Nat.lt_of_lt_of_le (Node.length_lt_height hat) hheight, hfold⟩

theorem beyondTo_of_height (name : String) (hheight : tree.height ≤ levels) :
    beyondTo name levels tree = [] := by
  refine List.eq_nil_iff_forall_not_mem.mpr ?_
  rintro ⟨path, call⟩ hmem
  obtain ⟨hat, hlevels, -⟩ := mem_beyondTo.mp hmem
  have hlength := Node.length_lt_height hat
  omega

/-- The calls that a scan of some levels folds beyond a limit. -/
def lostTo (name : String) (limit levels : Nat) (tree : Node) : List (List Nat × Node) :=
  (foldedTo name levels tree).filter fun e => !decide (e.1.length < limit)

theorem mem_lostTo (hheight : tree.height ≤ levels) {path : List Nat} {n : Node} :
    (path, n) ∈ lostTo name limit levels tree ↔
      tree.at? path = some n ∧ limit ≤ path.length ∧ n.isFoldable name := by
  rw [lostTo, List.mem_filter, mem_foldedTo_of_height hheight, Bool.not_eq_true', decide_eq_false_iff_not,
    Nat.not_lt, and_assoc, and_comm (b := limit ≤ path.length)]

theorem nodup_foldedTo (name : String) (levels : Nat) (tree : Node) :
    (foldedTo name levels tree).Nodup :=
  .of_map Prod.fst ((pairwise_foldedTo name levels tree).imp fun h => ne_of_lt h)

/-- What a scan without the limit folds within the limit is what the limited scan folds. -/
theorem filter_foldedTo (name : String) (limit : Nat) (hheight : tree.height ≤ levels) :
    (foldedTo name levels tree).filter (fun e => e.1.length < limit) = foldedTo name limit tree := by
  have hordered : ∀ k, (foldedTo name k tree).Pairwise fun e e' => e.1 < e'.1 := fun k =>
    List.pairwise_map.mp (pairwise_foldedTo name k tree)
  have hnodup := fun k => nodup_foldedTo name k tree
  -- Both lists go up, so it is enough that they have the same calls.
  refine List.Perm.eq_of_pairwise ?_ ((hordered levels).filter _) (hordered limit) ?_
  · exact fun e e' _ _ h h' => absurd h' (lt_asymm h)
  · refine (List.perm_ext_iff_of_nodup ((hnodup levels).filter _) (hnodup limit)).mpr ?_
    rintro ⟨path, n⟩
    rw [List.mem_filter, mem_foldedTo_of_height hheight, mem_foldedTo, decide_eq_true_iff, and_assoc,
      and_comm (b := path.length < limit)]

/-- A scan without the limit folds what the limited one folds, and what is lost to the limit. -/
theorem length_foldedTo (name : String) (limit : Nat) (hheight : tree.height ≤ levels) :
    (foldedTo name levels tree).length =
      (foldedTo name limit tree).length + (lostTo name limit levels tree).length := by
  rw [List.length_eq_length_filter_add fun e => decide (e.1.length < limit),
    filter_foldedTo name limit hheight, lostTo]

/-- What is lost to a limit are the calls beyond it that can be folded. -/
theorem perm_lostTo (name : String) (limit : Nat) (hheight : tree.height ≤ levels) :
    (lostTo name limit levels tree).Perm
      ((beyondTo name limit tree).filter fun e => e.2.isFoldable name) := by
  -- What is lost comes in reading order and what lies beyond in the order of the stops, so the two go
  -- together by their members only.
  have hlost : (lostTo name limit levels tree).Nodup := (nodup_foldedTo name levels tree).filter _
  have hbeyond : (beyondTo name limit tree).Nodup := .of_map Prod.fst (nodup_beyondTo name limit tree)
  refine (List.perm_ext_iff_of_nodup hlost (hbeyond.filter _)).mpr ?_
  rintro ⟨path, n⟩
  rw [mem_lostTo hheight, List.mem_filter, mem_beyondTo]
  constructor
  · rintro ⟨hat, hlimit, hfold⟩
    exact ⟨⟨hat, hlimit, Node.callsName_of_isFoldable hfold⟩, hfold⟩
  · rintro ⟨⟨hat, hlimit, -⟩, hfold⟩
    exact ⟨hat, hlimit, hfold⟩

/-- As many calls are lost to a limit as lie beyond it just where all of these can be folded. -/
theorem length_lostTo_iff (name : String) (limit : Nat) (hheight : tree.height ≤ levels) :
    (lostTo name limit levels tree).length = (beyondTo name limit tree).length ↔
      ∀ path call, tree.at? path = some call → limit ≤ path.length → call.callsName name →
        call.isFoldable name := by
  rw [(perm_lostTo name limit hheight).length_eq, List.length_filter_eq_length_iff]
  constructor
  · exact fun h path call hat hlimit hname => h (path, call) (mem_beyondTo.mpr ⟨hat, hlimit, hname⟩)
  · rintro h ⟨path, call⟩ hmem
    obtain ⟨hat, hlimit, hname⟩ := mem_beyondTo.mp hmem
    exact h path call hat hlimit hname

end Lost

/-! ## Scans with and without the limit -/

section Unlimited

variable {config : Config} {index : LineIndex} {tree : Node}

/-- The call sites of a scan, from the calls that it folds. -/
theorem sites_eq_filterMap (h : tree.Located index) (name : String) (levels : Nat) :
    sites name index levels tree =
      (foldedTo name levels tree).filterMap fun e => (CallSite.of? name index e.2).toOption.join := by
  have hsites := congrArg (List.filterMap fun s? => s?.toOption.join) (map_foldedTo h name levels)
  rw [List.filterMap_map, List.filterMap_map] at hsites
  exact (hsites.trans List.filterMap_some).symm

theorem sites_sublist (h : tree.Located index) (name : String) (limit : Nat) {levels : Nat}
    (hheight : tree.height ≤ levels) :
    (sites name index limit tree).Sublist (sites name index levels tree) := by
  rw [sites_eq_filterMap h, sites_eq_filterMap h, ← filter_foldedTo name limit hheight]
  exact List.filter_sublist.filterMap _

/-- The scan of a tree whose calls have their places, with sources that answer every key: there is one
substitution for each call that it folds, and what it skips are the calls beyond its levels. -/
theorem ofTree_of_located (h : tree.Located index) (htotal : config.Total) {w : Window}
    (hw : w.isSealed = false) (g : Guard) :
    ∃ scan, Scan.ofTree config index g w tree = (.ok (), scan) ∧
      scan.substitutions.reverse =
        (sites config.functionName index g.levels tree).filterMap (fill? config) ∧
      scan.substitutions.length = (foldedTo config.functionName g.levels tree).length ∧
      scan.skipped.length = (beyondTo config.functionName g.levels tree).length := by
  obtain ⟨events, hscan⟩ := ofTree_run_guard config index g hw tree
  obtain ⟨hending, hfilled, hskipped⟩ := yield_of_located config h htotal g.levels
  rw [hending] at hscan
  refine ⟨_, hscan, ?_, ?_, ?_⟩
  · simp only [Yield.finish, List.append_nil, List.reverse_reverse, hfilled]
  · simp only [Yield.finish, List.append_nil, List.length_reverse, hfilled]
    exact (forall₂_folds h htotal g.levels).length_eq.symm
  · simp only [Yield.finish, List.append_nil, List.length_reverse, hskipped]
    exact (length_beyondTo h config.functionName g.levels).symm

/-- A module with a build error for nesting just where a scan without the limit puts more in place than
the one with it, and with the number of what it puts more. -/
structure Module.ReportsCost (m : Module) (id : String) (limited free : Scan) : Prop where
  reported : m.buildErrors ≠ [] ↔ limited.substitutions.length < free.substitutions.length
  counted : ∀ e ∈ m.buildErrors, ∃ location,
    e = .nesting id 150 (free.substitutions.length - limited.substitutions.length) location

theorem BuildError.count_of_nesting {id : String} {limit : Int} {n n' : Nat} {l l' : Location}
    (h : BuildError.nesting id limit n l = .nesting id limit n' l') : n = n' := by
  have hmessage := congrArg (fun e => e.diagnostic.message) h
  simp only [BuildError.nesting, String.append_left_inj] at hmessage
  have hdigits : Nat.toDigits 10 n = Nat.toDigits 10 n' := by
    rw [← Nat.toList_repr, ← Nat.toList_repr]
    exact congrArg String.toList hmessage
  rw [← @Nat.ofDigitChars_ten_toDigits n, hdigits, Nat.ofDigitChars_ten_toDigits]

/-- Where the calls beyond the limit are reported, what is reported is the cost of the limit just if as
many calls are lost to it. -/
theorem reportsCost_iff {m : Module} {id : String} {limited free : Scan} {lost beyond : Nat}
    (hlost : free.substitutions.length = limited.substitutions.length + lost) (hle : lost ≤ beyond)
    (hnone : beyond = 0 → m.buildErrors = [])
    (hsome : beyond ≠ 0 → ∃ location, m.buildErrors = [.nesting id 150 beyond location]) :
    m.ReportsCost id limited free ↔ lost = beyond := by
  have hcost : free.substitutions.length - limited.substitutions.length = lost := by omega
  constructor
  · rintro ⟨-, hcounted⟩
    by_cases hzero : beyond = 0
    · omega
    · obtain ⟨location, herrors⟩ := hsome hzero
      rw [herrors, hcost] at hcounted
      obtain ⟨location', heq⟩ := hcounted _ List.mem_cons_self
      exact (BuildError.count_of_nesting heq).symm
  · rintro rfl
    by_cases hzero : lost = 0
    · have herrors := hnone hzero
      refine ⟨iff_of_false (not_not.mpr herrors) (by omega), fun e he => ?_⟩
      rw [herrors] at he
      cases he
    · obtain ⟨location, herrors⟩ := hsome hzero
      refine ⟨iff_of_true (herrors ▸ List.cons_ne_nil _ _) (by omega), fun e he => ?_⟩
      rw [herrors] at he
      exact ⟨location, hcost.symm ▸ List.mem_singleton.mp he⟩

/-- A module tells what the limit costs just where every call of the name beyond it can be folded. -/
theorem reportsCost_iff_foldable (h : tree.Located index) (htotal : config.Total) {w : Window}
    (hw : w.isSealed = false) {levels : Nat} (hheight : tree.height ≤ levels) {limited free : Scan}
    (hlimited : limited.substitutions.length = (foldedTo config.functionName 150 tree).length)
    (hfree : free.substitutions.length = (foldedTo config.functionName levels tree).length)
    {id source : String} {mark text : List Char} {m : Module}
    (hm : (buildTree config id source mark text index w tree).result = .ok m) :
    m.ReportsCost id limited free ↔
      ∀ path call, tree.at? path = some call → 150 ≤ path.length → call.callsName config.functionName →
        call.isFoldable config.functionName := by
  obtain ⟨-, hnone, hsome⟩ := buildTree_of_located h htotal hw hm
  rw [← length_lostTo_iff config.functionName 150 hheight]
  refine reportsCost_iff ?_ ?_ ?_ ?_
  · rw [hfree, hlimited, length_foldedTo config.functionName 150 hheight]
  · rw [(perm_lostTo config.functionName 150 hheight).length_eq]
    exact List.length_filter_le _ _
  · exact fun hzero => hnone (List.length_eq_zero_iff.mp hzero)
  · exact fun hne => hsome fun hnil => hne (List.length_eq_zero_iff.mpr hnil)

/-- A scan without the limit skips nothing: it puts in place what the limited scan does, and one
substitution more for each call beyond the limit that can be folded. The build errors of the module tell
how many these are, and are left out if there are none, just where every call of the name beyond the
limit can be folded. -/
theorem ofTree_unlimited (h : tree.Located index) (htotal : config.Total) {w : Window}
    (hw : w.isSealed = false) {g : Guard} (hheight : tree.height ≤ g.levels) :
    ∃ (limited free : Scan) (lost : List (List Nat × Node)),
      Scan.ofTree config index Guard.traversal w tree = (.ok (), limited) ∧
      Scan.ofTree config index g w tree = (.ok (), free) ∧
      free.skipped = [] ∧
      limited.substitutions.Sublist free.substitutions ∧
      free.substitutions.length = limited.substitutions.length + lost.length ∧
      lost.Nodup ∧
      (∀ path call, (path, call) ∈ lost ↔
        tree.at? path = some call ∧ 150 ≤ path.length ∧ call.isFoldable config.functionName) ∧
      (∀ id source mark text m, (buildTree config id source mark text index w tree).result = .ok m →
        (m.ReportsCost id limited free ↔
          ∀ path call, tree.at? path = some call → 150 ≤ path.length →
            call.callsName config.functionName → call.isFoldable config.functionName)) ∧
      (tree.WellPlaced index.lines → ∀ id source mark,
        ∃ m, (buildTree config id source mark index.text index w tree).result = .ok m) := by
  obtain ⟨limited, hlimited, hput, hlength, -⟩ := ofTree_of_located h htotal hw Guard.traversal
  obtain ⟨free, hfree, hput', hlength', hskipped⟩ := ofTree_of_located h htotal hw g
  rw [show Guard.traversal.levels = 150 from rfl] at hput hlength
  refine ⟨limited, free, lostTo config.functionName 150 g.levels tree, hlimited, hfree, ?_, ?_, ?_,
    (nodup_foldedTo _ _ _).filter _, fun path call => mem_lostTo hheight, ?_, ?_⟩
  · rw [beyondTo_of_height config.functionName hheight] at hskipped
    exact List.length_eq_zero_iff.mp hskipped
  · rw [← List.reverse_sublist, hput, hput']
    exact (sites_sublist h config.functionName 150 hheight).filterMap _
  · rw [hlength', hlength, length_foldedTo config.functionName 150 hheight]
  · exact fun id source mark text m hm =>
      reportsCost_iff_foldable h htotal hw hheight hlength hlength' hm
  · exact fun hplaced id source mark => buildTree_of_wellPlaced hplaced htotal hw id source mark

end Unlimited

/-- A call of a number, which cannot be folded, below 148 signs. -/
def strayText : List Char := "x = ".toList ++ List.replicate 148 '-' ++ "__(1)\n".toList

def stray : String := String.ofList strayText

theorem treeOf?_stray :
    ∃ tree, treeOf? stray = some tree ∧ tree.WellPlaced (splitLines (textOf stray)) ∧
      tree.height ≤ Guard.levels { limit := 1000 } ∧
      (beyondTo sampleConfig.functionName 150 tree).length = 1 ∧
      (foldedTo sampleConfig.functionName (Guard.levels { limit := 1000 }) tree).length = 0 := by
  have htext : textOf stray = strayText := textOf_ofList (by decide +kernel)
  have hread : treeOf? stray = (parseModule strayText).toOption :=
    treeOf?_ofList (by decide +kernel) (by decide +kernel)
  have hknown : (parseModule strayText).toOption.map (fun tree =>
      (tree.exceeds 156, tree.callsTo 156, decide (tree.height ≤ 1000 ∧
        (beyondTo "__" 150 tree).length = 1 ∧ (foldedTo "__" 1000 tree).length = 0))) =
      some (false, [([0, 1] ++ List.replicate 148 0, ⟨⟨1, 152⟩, ⟨1, 157⟩⟩)], true) := by
    decide +kernel
  rw [← hread] at hknown
  obtain ⟨tree, hread, hplaced, hheight, hbeyond, hfolded⟩ :=
    Node.exists_wellPlaced_with (splitLines strayText) hknown (by decide +kernel) (by decide +kernel)
  exact ⟨tree, hread, htext ▸ hplaced, hheight, hbeyond, hfolded⟩

/-- The call in it is reported, though a scan without the limit does not fold it either. -/
theorem buildTree_stray :
    ∃ tree limited free m location,
      treeOf? stray = some tree ∧ tree.height ≤ Guard.levels { limit := 1000 } ∧
      Scan.ofTree sampleConfig (indexOf (textOf stray)) Guard.traversal { module := "a.py" } tree =
        (.ok (), limited) ∧
      Scan.ofTree sampleConfig (indexOf (textOf stray)) { limit := 1000 } { module := "a.py" } tree =
        (.ok (), free) ∧
      (buildTree sampleConfig "a.py" stray [] (indexOf (textOf stray)).text (indexOf (textOf stray))
        { module := "a.py" } tree).result = .ok m ∧
      m.buildErrors = [.nesting "a.py" 150 1 location] ∧ free.substitutions = [] ∧
      ¬ m.ReportsCost "a.py" limited free := by
  obtain ⟨tree, hread, hplaced, hheight, hbeyond, hfolded⟩ := treeOf?_stray
  have hplaced' := wellPlaced_indexOf hplaced
  have hopen : Window.isSealed { module := "a.py" } = false := rfl
  obtain ⟨limited, hlimited, -⟩ :=
    ofTree_of_located hplaced'.located sampleConfig_total hopen Guard.traversal
  obtain ⟨free, hfree, -, hlength, -⟩ :=
    ofTree_of_located hplaced'.located sampleConfig_total hopen { limit := 1000 }
  obtain ⟨m, hm⟩ := buildTree_of_wellPlaced hplaced' sampleConfig_total hopen "a.py" stray []
  obtain ⟨-, -, hreported⟩ := buildTree_of_located hplaced'.located sampleConfig_total hopen hm
  obtain ⟨location, herrors⟩ := hreported (List.ne_nil_of_length_pos (by rw [hbeyond]; decide))
  rw [hbeyond] at herrors
  rw [hfolded] at hlength
  refine ⟨tree, limited, free, m, location, hread, hheight, hlimited, hfree, hm, herrors,
    List.length_eq_zero_iff.mp hlength, fun hcost => ?_⟩
  have hmore := hcost.reported.mp (herrors ▸ List.cons_ne_nil _ _)
  rw [hlength] at hmore
  exact Nat.not_lt_zero _ hmore

/-- The limit is reported in it, and no call is lost to it. -/
theorem ofTree_unlimited_stray :
    ∃ tree limited free lost,
      treeOf? stray = some tree ∧
      Scan.ofTree sampleConfig (indexOf (textOf stray)) Guard.traversal { module := "a.py" } tree =
        (.ok (), limited) ∧
      Scan.ofTree sampleConfig (indexOf (textOf stray)) { limit := 1000 } { module := "a.py" } tree =
        (.ok (), free) ∧
      free.skipped = [] ∧
      free.substitutions.length = limited.substitutions.length + List.length lost ∧
      ∀ path call, (path, call) ∈ lost ↔
        tree.at? path = some call ∧ 150 ≤ path.length ∧ call.isFoldable sampleConfig.functionName := by
  obtain ⟨tree, hread, hplaced, hheight, -⟩ := treeOf?_stray
  have hopen : Window.isSealed { module := "a.py" } = false := rfl
  obtain ⟨limited, free, lost, hlimited, hfree, hskipped, -, hlength, -, hlost, -⟩ :=
    ofTree_unlimited (wellPlaced_indexOf hplaced).located sampleConfig_total hopen hheight
  exact ⟨tree, limited, free, lost, hread, hlimited, hfree, hskipped, hlength, hlost⟩

end Localize
