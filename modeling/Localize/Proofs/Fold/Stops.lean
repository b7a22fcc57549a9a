/-
  The scan of a tree as a list of stops. A scan walks a tree and its guard along it; what it does to
  everything else is done at a few nodes only: call sites, and nodes beyond the limit. `stops` lists
  them in the order of the walk, and `visit_eq_performAll` says that a scan is no more than doing what
  each of them asks for, one after the other, up to the first fault.
-/
import Localize.Fold.Scan
import Mathlib.Data.List.Basic

namespace Localize

open Syntax

/-- What a scan meets on its way down a tree. -/
inductive Stop where
  /-- A call site, which is folded. -/
  | site (s : CallSite)
  /-- A call whose place in the text cannot be told. -/
  | misplaced (e : PositionError)
  /-- The calls of the localization function in a tree beyond the limit. -/
  | beyond (spans : List Span)

/-- What a node that may be a call site asks for; `inner` are the stops below it. -/
def Stop.ofCall (name : String) (index : LineIndex) (node : Node) (inner : List Stop) : List Stop :=
  match CallSite.of? name index node with
  | .error e => [.misplaced e]
  | .ok none => inner
  | .ok (some s) => [.site s]

/-- The stops of a scan of a tree that may still enter some levels. -/
def stops (name : String) (index : LineIndex) : Nat → Node → List Stop
  | 0, node => [.beyond (callsWithin name node)]
  | levels + 1, node =>
    Stop.ofCall name index node (node.children.flatMap (stops name index levels))

/-- The miss of a call site whose key is not found. -/
def CallSite.miss (s : CallSite) : Miss := ⟨s.key, s.text, some s.location⟩

theorem Guard.enter_of_open {g : Guard} (h : g.isExceeded = false) :
    g.enter = .ok { g with depth := g.depth + 1 } := by
  unfold Guard.enter
  rw [h]
  rfl

namespace Scan

/-- Does what a stop asks for. -/
def perform (config : Config) : Stop → Scanning Unit
  | .site s => fill config s
  | .misplaced e => throw (.fold (.position e))
  | .beyond spans => modify fun scan => { scan with skipped := spans.reverse ++ scan.skipped }

/-- Does what stops ask for, one after the other, up to the first fault. -/
def performAll (config : Config) : List Stop → Scanning Unit
  | [] => return ()
  | s :: rest => do
    perform config s
    performAll config rest

theorem performAll_append (config : Config) (ss ts : List Stop) :
    performAll config (ss ++ ts) = (do performAll config ss; performAll config ts) := by
  induction ss with
  | nil => simp [performAll]
  | cons s ss ih => simp [performAll, ih]

theorem run_bind {α β : Type} (x : Scanning α) (f : α → Scanning β) (scan : Scan) :
    (x >>= f).run scan =
      match x.run scan with
      | (.ok a, scan') => (f a).run scan'
      | (.error e, scan') => (.error e, scan') := by
  show (match ExceptT.run x scan with
    | (a, scan') => ExceptT.bindCont f a scan') = _
  rcases ExceptT.run x scan with ⟨_ | _, _⟩ <;> rfl

/-! ## Stops leave the guard alone -/

/-- An action that neither reads nor changes the guard. -/
def GuardFree {α : Type} (action : Scanning α) : Prop :=
  ∀ (scan : Scan) (g : Guard),
    action.run { scan with guard := g } =
      ((action.run scan).1, { (action.run scan).2 with guard := g })

theorem GuardFree.bind {α β : Type} {x : Scanning α} {f : α → Scanning β} (hx : GuardFree x)
    (hf : ∀ a, GuardFree (f a)) : GuardFree (x >>= f) := by
  intro scan g
  rw [run_bind, run_bind, hx scan g]
  rcases x.run scan with ⟨e | a, scan'⟩
  · rfl
  · exact hf a scan' g

theorem GuardFree.guard_eq {α : Type} {action : Scanning α} (h : GuardFree action) (scan : Scan) :
    (action.run scan).2.guard = scan.guard :=
  congrArg (fun outcome => outcome.2.guard) (h scan scan.guard)

theorem guardFree_resolve (config : Config) (m : Miss) : GuardFree (resolve config m) := by
  intro scan g
  show resolve config m _ = ((resolve config m scan).1, { (resolve config m scan).2 with guard := g })
  unfold resolve
  dsimp only
  rcases (Resolution.of config m).run scan.journal with ⟨e | r, journal⟩ <;> rfl

theorem guardFree_fill (config : Config) (s : CallSite) : GuardFree (fill config s) := by
  refine (guardFree_resolve config _).bind fun r => ?_
  rcases Substitution.fill r.value s r.outcome with f | substitution
  all_goals exact fun _ _ => rfl

theorem guardFree_perform (config : Config) (s : Stop) : GuardFree (perform config s) := by
  cases s with
  | site s => exact guardFree_fill config s
  | misplaced e => exact fun _ _ => rfl
  | beyond spans => exact fun _ _ => rfl

theorem guardFree_performAll (config : Config) (ss : List Stop) :
    GuardFree (performAll config ss) := by
  induction ss with
  | nil => exact fun _ _ => rfl
  | cons s rest ih => exact (guardFree_perform config s).bind fun _ => ih

/-! ## Levels that are entered and left -/

theorem guarded_of_exceeded {scan : Scan} (h : scan.guard.isExceeded = true) (name : String)
    (node : Node) (body : Scanning Unit) :
    (guarded name node body).run scan =
      (.ok (), { scan with skipped := (callsWithin name node).reverse ++ scan.skipped }) := by
  show guarded name node body scan = _
  unfold guarded
  rw [if_pos h]

theorem guarded_of_open {scan : Scan} {guard : Guard} (h : scan.guard.isExceeded = false)
    (henter : scan.guard.enter = .ok guard) (name : String) (node : Node) {body : Scanning Unit}
    {outcome : Except ScanFault Unit × Scan} (hbody : body.run { scan with guard } = outcome) :
    (guarded name node body).run scan =
      (outcome.1, { outcome.2 with guard := outcome.2.guard.leave }) := by
  show guarded name node body scan = _
  unfold guarded
  rw [h, henter]
  dsimp only
  rw [hbody]
  rfl

/-- What is done at stops can be done inside of a level that is entered before and left again. -/
theorem guarded_performAll (config : Config) {name : String} {node : Node} {body : Scanning Unit}
    {ss : List Stop} {scan : Scan} {guard : Guard} (hopen : scan.guard.isExceeded = false)
    (henter : scan.guard.enter = .ok guard)
    (hbody : body.run { scan with guard } = (performAll config ss).run { scan with guard }) :
    (guarded name node body).run scan = (performAll config ss).run scan := by
  have hfree := guardFree_performAll config ss scan
  have hleave : guard.leave = scan.guard := by
    rw [Guard.enter_of_open hopen] at henter
    cases henter
    simp [Guard.leave]
  rw [guarded_of_open hopen henter name node (hbody.trans (hfree guard)), hleave]
  exact (hfree scan.guard).symm

end Scan

/-- The levels that a guard may still enter. -/
def Guard.levels (g : Guard) : Nat := (g.limit - g.depth).toNat

theorem Guard.isExceeded_iff (g : Guard) : g.isExceeded = true ↔ g.levels = 0 := by
  unfold Guard.isExceeded Guard.levels
  rw [decide_eq_true_iff]
  omega

theorem Guard.enter_of_levels {g : Guard} {n : Nat} (h : g.levels = n + 1) :
    ∃ g', g.enter = .ok g' ∧ g.isExceeded = false ∧ g'.levels = n := by
  have hopen : g.isExceeded = false := by
    rw [Bool.eq_false_iff]
    intro he
    rw [Guard.isExceeded_iff, h] at he
    omega
  refine ⟨_, Guard.enter_of_open hopen, hopen, ?_⟩
  unfold Guard.levels at h ⊢
  dsimp only
  omega

namespace Scan

/-! ## A visit and what is below it -/

theorem visitAll_append (config : Config) (index : LineIndex) (nodes more : List Node) :
    visitAll config index (nodes ++ more) =
      (do visitAll config index nodes; visitAll config index more) := by
  induction nodes with
  | nil => simp [visitAll]
  | cons node nodes ih => simp [visitAll, ih]

/-- A node is visited inside of a level of its own, and so are its children after it, unless it is a call
that is folded. -/
theorem visit_eq (config : Config) (index : LineIndex) (node : Node) :
    visit config index node = guarded config.functionName node
      (do if ← foldCall config index node then return () else visitAll config index node.children) := by
  have hpass (h : CallSite.of? config.functionName index node = .ok none) :
      foldCall config index node = pure false := by
    unfold foldCall
    rw [h]
  unfold visit
  cases node with
  | call callee arguments keywords span =>
    simp only [Node.children, visitAll, visitAll_append]
  | _ => simp [hpass rfl, Node.children, visitAll]

/-! ## A scan is what is done at its stops -/

theorem foldCall_bind (config : Config) (index : LineIndex) (node : Node) (inner : List Stop) :
    (do if ← foldCall config index node then return () else performAll config inner) =
      performAll config (Stop.ofCall config.functionName index node inner) := by
  unfold foldCall Stop.ofCall
  rcases CallSite.of? config.functionName index node with e | (_ | s)
  · rfl
  · rfl
  · simp [performAll, perform]

/-- Two parts that are done at stops, one after the other, are done at the stops of both. -/
theorem run_bind_performAll (config : Config) {x y : Scanning Unit} {ss ts : List Stop} {scan : Scan}
    (hx : x.run scan = (performAll config ss).run scan)
    (hy : ∀ scan' : Scan, scan'.guard = scan.guard →
      y.run scan' = (performAll config ts).run scan') :
    (do x; y : Scanning Unit).run scan = (performAll config (ss ++ ts)).run scan := by
  have hguard := (guardFree_performAll config ss).guard_eq scan
  rw [performAll_append]
  show (x >>= fun _ => y).run scan = (performAll config ss >>= fun _ => performAll config ts).run scan
  rw [run_bind, run_bind, hx]
  rcases hss : (performAll config ss).run scan with ⟨e | u, scan'⟩
  · rfl
  · rw [hss] at hguard
    exact hy scan' hguard

/-- Folding a call, or else going on below it, is done at the stops of the call. -/
theorem foldCall_performAll (config : Config) (index : LineIndex) (node : Node)
    {body : Scanning Unit} {inner : List Stop} {scan : Scan}
    (h : body.run scan = (performAll config inner).run scan) :
    (do if ← foldCall config index node then return () else body : Scanning Unit).run scan =
      (performAll config (Stop.ofCall config.functionName index node inner)).run scan := by
  rw [← foldCall_bind]
  unfold foldCall
  rcases CallSite.of? config.functionName index node with e | (_ | s)
  · rfl
  · exact h
  · simp

/-- Where each of some nodes is scanned by doing what is done at its stops, so are they all. -/
theorem visitAll_eq_performAll (config : Config) (index : LineIndex) {levels : Nat} {nodes : List Node}
    (hnodes : ∀ node ∈ nodes, ∀ scan : Scan, scan.guard.levels = levels →
      (visit config index node).run scan =
        (performAll config (stops config.functionName index levels node)).run scan)
    (scan : Scan) (h : scan.guard.levels = levels) :
    (visitAll config index nodes).run scan =
      (performAll config (nodes.flatMap (stops config.functionName index levels))).run scan := by
  induction nodes generalizing scan with
  | nil => rfl
  | cons node rest ih =>
    obtain ⟨hnode, hrest⟩ := List.forall_mem_cons.mp hnodes
    unfold visitAll
    rw [List.flatMap_cons]
    refine run_bind_performAll config (hnode scan h) ?_
    intro scan' hguard
    exact ih hrest scan' (by rw [hguard]; exact h)

/-- A scan does what is done at its stops, and nothing else. -/
theorem visit_eq_performAll (config : Config) (index : LineIndex) (node : Node) (levels : Nat)
    (scan : Scan) (h : scan.guard.levels = levels) :
    (visit config index node).run scan =
      (performAll config (stops config.functionName index levels node)).run scan := by
  induction levels generalizing node scan with
  | zero =>
    rw [visit_eq, guarded_of_exceeded (scan.guard.isExceeded_iff.mpr h)]
    rfl
  | succ n ih =>
    obtain ⟨guard, henter, hopen, hlevels⟩ := Guard.enter_of_levels h
    rw [visit_eq]
    refine guarded_performAll config hopen henter (foldCall_performAll config index node ?_)
    exact visitAll_eq_performAll config index (fun child _ => ih child) _ hlevels

end Scan

end Localize
