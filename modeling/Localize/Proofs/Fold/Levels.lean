/-
  The levels that a scan is in. A walk does what a scan does one step at a time and keeps the levels that
  are open on a stack, so it tells at any moment which node is visited and how deep the scan is. Below any
  open levels it comes to what the visit of a node comes to (`returns`). The guard counts the open levels at
  every step (`Counted.next`); so its depth is that of the node that is visited, it refuses no entry, and a
  visit leaves it as it was, however it ends (`depth_of_reaches`).
-/
import Localize.Proofs.Fold.Paths
import Localize.Proofs.Syntax.Tree
import Mathlib.Logic.Relation

namespace Localize

open Syntax

namespace Scan

theorem guardFree_foldCall (config : Config) (index : LineIndex) (node : Node) :
    GuardFree (foldCall config index node) := by
  unfold foldCall
  rcases CallSite.of? config.functionName index node with e | (_ | s)
  · exact fun _ _ => rfl
  · exact fun _ _ => rfl
  · exact (guardFree_fill config s).bind fun _ _ _ => rfl

/-- An action whose faults are not those of a guard. -/
def NestingFree {α : Type} (action : Scanning α) : Prop :=
  ∀ (scan : Scan) (f : NestingFault), (action.run scan).1 ≠ .error (.nesting f)

theorem NestingFree.bind {α β : Type} {x : Scanning α} {f : α → Scanning β} (hx : NestingFree x)
    (hf : ∀ a, NestingFree (f a)) : NestingFree (x >>= f) := by
  intro scan fault
  have hfault := hx scan fault
  rw [run_bind]
  rcases hrun : x.run scan with ⟨e | a, scan'⟩
  · rw [hrun] at hfault
    exact fun h => hfault (congrArg Except.error (Except.error.inj h))
  · exact hf a scan' fault

theorem nestingFree_resolve (config : Config) (m : Miss) : NestingFree (resolve config m) := by
  intro scan fault
  show (resolve config m scan).1 ≠ _
  unfold resolve
  rcases (Resolution.of config m).run scan.journal with ⟨e | r, journal⟩ <;> exact nofun

theorem nestingFree_fill (config : Config) (s : CallSite) : NestingFree (fill config s) := by
  refine (nestingFree_resolve config _).bind fun r => ?_
  rcases Substitution.fill r.value s r.outcome with f | substitution
  all_goals exact fun _ _ => nofun

theorem nestingFree_foldCall (config : Config) (index : LineIndex) (node : Node) :
    NestingFree (foldCall config index node) := by
  unfold foldCall
  rcases CallSite.of? config.functionName index node with e | (_ | s)
  · exact fun _ _ => nofun
  · exact fun _ _ => nofun
  · exact (nestingFree_fill config s).bind fun _ _ _ => nofun

end Scan

/-! ## Walks -/

/-- What a walk does next. -/
inductive Turn where
  /-- It visits a node at the end of a path from the root. -/
  | visit (path : List Nat) (node : Node)
  /-- It has entered a level for a node and looks at the node itself. -/
  | inside (node : Node)
  /-- It goes on with the children of the innermost level. -/
  | resume
  /-- It leaves the innermost level. -/
  | leave (ending : Except ScanFault Unit)

/-- What a walk does after a visit. A fault leaves the level around it too. -/
def Turn.after : Except ScanFault Unit → Turn
  | .ok () => .resume
  | .error f => .leave (.error f)

/-- What a walk does when it has looked at a node, which may be a call that is folded now. -/
def Turn.behind : Except ScanFault Bool → Turn
  | .ok true => .leave (.ok ())
  | .ok false => .resume
  | .error f => .leave (.error f)

/-- A moment of a walk. The open levels come innermost first, each as the children that it has still to
visit. -/
structure Moment where
  turn : Turn
  levels : List (List (List Nat × Node))
  scan : Scan

namespace Moment

/-- The moment at which the scan of a tree begins. -/
def start (limit : Int) (window : Window) (tree : Node) : Moment where
  turn := .visit [] tree
  levels := []
  scan := { guard := { limit }, journal := { window } }

/-- The moment at which a visit has come to its end, with the levels that were open before. -/
def back (m : Moment) (outcome : Except ScanFault Unit × Scan) : Moment where
  turn := .after outcome.1
  levels := m.levels
  scan := outcome.2

/-- A visit asks the guard first. It enters a level if it may, and only notes calls if it may not. -/
def enter (name : String) (path : List Nat) (node : Node) (m : Moment) : Moment :=
  if m.scan.guard.isExceeded then
    let skipped := (callsWithin name node).reverse ++ m.scan.skipped
    { m with turn := .resume, scan := { m.scan with skipped } }
  else
    match m.scan.guard.enter with
    | .error f => { m with turn := .leave (.error (.nesting f)) }
    | .ok guard =>
      { turn := .inside node
        levels := Node.nextLevel [(path, node)] :: m.levels
        scan := { m.scan with guard } }

/-- Inside of its level a node is folded, if it is a call that can be. -/
def look (config : Config) (index : LineIndex) (node : Node) (m : Moment) : Moment :=
  let outcome := (Scan.foldCall config index node).run m.scan
  { m with turn := .behind outcome.1, scan := outcome.2 }

/-- The next moment, unless the walk has ended. -/
def next (config : Config) (index : LineIndex) (m : Moment) : Option Moment :=
  match m.turn, m.levels with
  | .visit path node, _ => some (m.enter config.functionName path node)
  | .inside node, _ => some (m.look config index node)
  | .resume, ((path, child) :: rest) :: levels =>
    some { m with turn := .visit path child, levels := rest :: levels }
  | .resume, [] :: _ => some { m with turn := .leave (.ok ()) }
  | .leave ending, _ :: levels =>
    some ⟨.after ending, levels, { m.scan with guard := m.scan.guard.leave }⟩
  | .resume, [] | .leave _, [] => none

/-- A walk comes from one moment to another. -/
def Reaches (config : Config) (index : LineIndex) : Moment → Moment → Prop :=
  Relation.ReflTransGen fun m m' => m.next config index = some m'

section Walks

variable {config : Config} {index : LineIndex}

/-- Below any open levels the walk of a node comes to what its visit comes to. -/
def Returns (config : Config) (index : LineIndex) (node : Node) : Prop :=
  ∀ (m : Moment) (path : List Nat), m.turn = .visit path node →
    Reaches config index m (m.back ((Scan.visit config index node).run m.scan))

/-- The walk of the children that are pending comes to the end of their level. -/
theorem reaches_below {pending : List (List Nat × Node)}
    (h : ∀ e ∈ pending, Returns config index e.2)
    (levels : List (List (List Nat × Node))) (scan : Scan) {outcome : Except ScanFault Unit × Scan}
    (houtcome : (Scan.visitAll config index (pending.map Prod.snd)).run scan = outcome) :
    Reaches config index ⟨.resume, pending :: levels, scan⟩
      ⟨.after outcome.1, levels, { outcome.2 with guard := outcome.2.guard.leave }⟩ := by
  induction pending generalizing scan with
  | nil =>
    subst houtcome
    exact .head rfl (.single rfl)
  | cons e rest ih =>
    obtain ⟨path, child⟩ := e
    have hchild :=
      h (path, child) List.mem_cons_self ⟨.visit path child, rest :: levels, scan⟩ path rfl
    rw [List.map_cons, Scan.visitAll, Scan.run_bind] at houtcome
    refine .head rfl (hchild.trans ?_)
    dsimp only at houtcome hchild ⊢
    rcases hvisit : (Scan.visit config index child).run scan with ⟨f | ⟨⟩, scan'⟩
    -- After a fault the rest is still pending, and goes with its level.
    · rw [hvisit] at houtcome
      subst houtcome
      exact .single rfl
    · rw [hvisit] at houtcome
      exact ih (fun e he => h e (List.mem_cons_of_mem _ he)) scan' houtcome

theorem enter_of_exceeded {m : Moment} (h : m.scan.guard.isExceeded = true) (name : String)
    (path : List Nat) (node : Node) :
    m.enter name path node =
      { m with
        turn := .resume
        scan := { m.scan with skipped := (callsWithin name node).reverse ++ m.scan.skipped } } := by
  unfold enter
  rw [if_pos h]

theorem enter_of_open {m : Moment} (h : m.scan.guard.isExceeded = false) (name : String)
    (path : List Nat) (node : Node) :
    m.enter name path node =
      ⟨.inside node, Node.nextLevel [(path, node)] :: m.levels,
        { m.scan with guard := { m.scan.guard with depth := m.scan.guard.depth + 1 } }⟩ := by
  unfold enter
  rw [h, Guard.enter_of_open h]
  rfl

/-- From inside of its level a walk comes to what is left of the visit of a node. -/
theorem reaches_inside {node : Node} {path : List Nat}
    (h : ∀ child ∈ node.children, Returns config index child)
    (levels : List (List (List Nat × Node))) (scan : Scan) {outcome : Except ScanFault Unit × Scan}
    (houtcome : (do
      if ← Scan.foldCall config index node then return ()
      else Scan.visitAll config index node.children : Scanning Unit).run scan = outcome) :
    Reaches config index ⟨.inside node, Node.nextLevel [(path, node)] :: levels, scan⟩
      ⟨.after outcome.1, levels, { outcome.2 with guard := outcome.2.guard.leave }⟩ := by
  have hnodes : (Node.nextLevel [(path, node)]).map Prod.snd = node.children := by
    rw [Node.map_nextLevel, List.map_singleton, List.flatMap_singleton]
  rw [Scan.run_bind] at houtcome
  refine .head rfl ?_
  unfold look
  rcases hcall : (Scan.foldCall config index node).run scan with ⟨f | _ | _, scan'⟩
  all_goals rw [hcall] at houtcome
  · subst houtcome
    exact .single rfl
  · refine reaches_below (fun e he => ?_) levels scan' (hnodes ▸ houtcome)
    exact h e.2 (hnodes ▸ List.mem_map_of_mem he)
  · subst houtcome
    exact .single rfl

theorem returns (config : Config) (index : LineIndex) (node : Node) : Returns config index node := by
  induction node using Node.induction_children with
  | h node ih =>
    rintro ⟨turn, levels, scan⟩ path hturn
    cases hturn
    dsimp only [back]
    rw [Scan.visit_eq]
    rcases hopen : scan.guard.isExceeded with _ | _
    · rw [Scan.guarded_of_open hopen (Guard.enter_of_open hopen) _ _ rfl]
      refine .head (congrArg some (enter_of_open hopen _ path node)) ?_
      exact reaches_inside ih levels _ rfl
    · rw [Scan.guarded_of_exceeded hopen]
      exact .single (congrArg some (enter_of_exceeded hopen _ path node))

/-! ## What the guard counts -/

/-- A node of a tree at the end of a path, which is as long as there are levels open. -/
def StandsAt (tree : Node) (depth : Nat) (e : List Nat × Node) : Prop :=
  tree.at? e.1 = some e.2 ∧ e.1.length = depth

/-- The children that are pending in open levels stand right below these in a tree. -/
def Placed (tree : Node) : List (List (List Nat × Node)) → Prop
  | [] => True
  | pending :: levels =>
    (∀ e ∈ pending, StandsAt tree (levels.length + 1) e) ∧ Placed tree levels

theorem StandsAt.below {tree node : Node} {depth : Nat} {path : List Nat}
    (h : StandsAt tree depth (path, node)) :
    ∀ e ∈ Node.nextLevel [(path, node)], StandsAt tree (depth + 1) e := by
  rintro ⟨below, child⟩ he
  obtain ⟨front, i, parent, rfl, hparent, hi⟩ := Node.mem_nextLevel.mp he
  cases List.mem_singleton.mp hparent
  obtain ⟨hat, hlength⟩ := h
  refine ⟨?_, ?_⟩
  · rw [Node.at?_append, hat]
    show (node.children[i]?).bind _ = _
    rw [hi]
    rfl
  · rw [List.length_append, hlength]
    rfl

/-- What a turn says of a moment with a number of open levels: a node that is visited stands there in the
tree, and no fault that the levels are left with is one of the guard. -/
def Fits (tree : Node) (depth : Nat) : Turn → Prop
  | .visit path node => StandsAt tree depth (path, node)
  | .leave (.error (.nesting _)) => False
  | _ => True

/-- A moment at which the guard has counted the open levels of a walk in a tree. -/
structure Counted (limit : Int) (tree : Node) (m : Moment) : Prop where
  guard_eq : m.scan.guard = ⟨limit, m.levels.length⟩
  within : m.levels.length ≤ limit
  placed : Placed tree m.levels
  fits : Fits tree m.levels.length m.turn

variable {limit : Int} {tree : Node} {m m' : Moment}

theorem counted_start (hlimit : 0 ≤ limit) (window : Window) (tree : Node) :
    Counted limit tree (start limit window tree) where
  guard_eq := rfl
  within := hlimit
  placed := trivial
  fits := ⟨rfl, rfl⟩

theorem Counted.enter (h : Counted limit tree m) (name : String) {path : List Nat} {node : Node}
    (hturn : m.turn = .visit path node) : Counted limit tree (m.enter name path node) := by
  have hfits := h.fits
  rw [hturn] at hfits
  rcases hopen : m.scan.guard.isExceeded with _ | _
  · rw [enter_of_open hopen]
    rw [h.guard_eq] at hopen ⊢
    -- The check before an entry has found room for one more level.
    have hroom : (m.levels.length : Int) < limit := Int.not_le.mp (of_decide_eq_false hopen)
    exact ⟨rfl, hroom, ⟨hfits.below, h.placed⟩, trivial⟩
  · rw [enter_of_exceeded hopen]
    exact ⟨h.guard_eq, h.within, h.placed, trivial⟩

theorem Counted.look (h : Counted limit tree m) (config : Config) (index : LineIndex) (node : Node) :
    Counted limit tree (m.look config index node) := by
  have hguard := (Scan.guardFree_foldCall config index node).guard_eq m.scan
  have hfault := Scan.nestingFree_foldCall config index node m.scan
  refine ⟨hguard.trans h.guard_eq, h.within, h.placed, ?_⟩
  show Fits tree _ (.behind ((Scan.foldCall config index node).run m.scan).1)
  rcases hcall : ((Scan.foldCall config index node).run m.scan).1 with (_ | f | _) | _ | _
  · trivial
  · exact absurd hcall (hfault f)
  · trivial
  · trivial
  · trivial

theorem Counted.leave {ending : Except ScanFault Unit} {pending : List (List Nat × Node)}
    {levels : List (List (List Nat × Node))} {scan : Scan}
    (h : Counted limit tree ⟨.leave ending, pending :: levels, scan⟩) :
    Counted limit tree ⟨.after ending, levels, { scan with guard := scan.guard.leave }⟩ := by
  have hguard : scan.guard = ⟨limit, (levels.length : Int) + 1⟩ := h.guard_eq
  have hwithin : (levels.length : Int) + 1 ≤ limit := h.within
  refine ⟨?_, ?_, h.placed.2, ?_⟩
  · show scan.guard.leave = _
    rw [hguard, Guard.leave]
    simp
  · show (levels.length : Int) ≤ limit
    omega
  · have hfits := h.fits
    rcases ending with (_ | f | _) | _
    · trivial
    · exact hfits
    · trivial
    · trivial

/-- Each step of a walk keeps the count. -/
theorem Counted.next (h : Counted limit tree m) (hnext : m.next config index = some m') :
    Counted limit tree m' := by
  obtain ⟨turn, levels, scan⟩ := m
  cases turn with
  | visit path node =>
    cases hnext
    exact h.enter _ rfl
  | inside node =>
    cases hnext
    exact h.look config index node
  | resume =>
    rcases levels with _ | ⟨_ | ⟨e, rest⟩, levels⟩
    · cases hnext
    · cases hnext
      exact ⟨h.guard_eq, h.within, h.placed, trivial⟩
    · cases hnext
      obtain ⟨hpending, hplaced⟩ := h.placed
      obtain ⟨hfirst, hrest⟩ := List.forall_mem_cons.mp hpending
      exact ⟨h.guard_eq, h.within, ⟨hrest, hplaced⟩, hfirst⟩
  | leave ending =>
    rcases levels with _ | ⟨pending, levels⟩
    · cases hnext
    · cases hnext
      exact h.leave

theorem Counted.reaches (h : Counted limit tree m) (hreach : Reaches config index m m') :
    Counted limit tree m' := by
  induction hreach with
  | refl => exact h
  | tail _ hnext ih => exact ih.next hnext

theorem Counted.turn_ne (h : Counted limit tree m) (f : NestingFault) :
    m.turn ≠ .leave (.error (.nesting f)) := by
  intro hturn
  have hfits := h.fits
  rwa [hturn] at hfits

/-- A visit that comes back: the walk goes on with the levels that were open before, the guard is what it
was, and no fault of the guard comes out. -/
structure ComesBack (config : Config) (index : LineIndex) (m : Moment)
    (outcome : Except ScanFault Unit × Scan) : Prop where
  reaches : Reaches config index m (m.back outcome)
  guard_eq : outcome.2.guard = m.scan.guard
  ending_ne : ∀ f, outcome.1 ≠ .error (.nesting f)

theorem Counted.comesBack (h : Counted limit tree m) {path : List Nat} {node : Node}
    (hturn : m.turn = .visit path node) :
    m.ComesBack config index ((Scan.visit config index node).run m.scan) := by
  have hreaches := returns config index node m path hturn
  have hback := h.reaches hreaches
  refine ⟨hreaches, hback.guard_eq.trans h.guard_eq.symm, fun f hf => ?_⟩
  exact hback.turn_ne f (congrArg Turn.after hf)

/-- At each moment of a scan under a limit the depth of the guard is the number of open levels, which is at
most the limit, and no entry has been refused. A node is visited at a depth of as many levels as there are
steps from the root to it, and its visit comes back, whatever fault it may end with. So does the whole
scan, which is then at its end. -/
theorem depth_of_reaches (config : Config) (index : LineIndex) (window : Window) (tree : Node)
    (hlimit : 0 ≤ limit) :
    (∀ m, Reaches config index (start limit window tree) m →
      m.scan.guard.limit = limit ∧ 0 ≤ m.scan.guard.depth ∧ m.scan.guard.depth ≤ limit ∧
        m.scan.guard.depth = m.levels.length ∧ (∀ f, m.turn ≠ .leave (.error (.nesting f))) ∧
        ∀ path node, m.turn = .visit path node →
          tree.at? path = some node ∧ m.scan.guard.depth = path.length ∧
            m.ComesBack config index ((Scan.visit config index node).run m.scan)) ∧
      (start limit window tree).ComesBack config index
        (Scan.ofTree config index { limit } window tree) ∧
      ((start limit window tree).back (Scan.ofTree config index { limit } window tree)).next config
        index = none := by
  have hstart := counted_start hlimit window tree
  refine ⟨fun m hm => ?_, hstart.comesBack rfl, ?_⟩
  · have hcounted := hstart.reaches hm
    have hfits := hcounted.fits
    rw [hcounted.guard_eq]
    refine ⟨rfl, Int.natCast_nonneg _, hcounted.within, rfl, hcounted.turn_ne, fun path node hturn => ?_⟩
    rw [hturn] at hfits
    obtain ⟨hat, hlength⟩ := hfits
    exact ⟨hat, congrArg Nat.cast hlength.symm, hcounted.comesBack hturn⟩
  · unfold back
    rcases (Scan.ofTree config index { limit } window tree).1 with f | _ <;> rfl

end Walks

/-- A source that refuses every key. -/
def refuser : Config where
  primary := some (.function "refuse" fun key => .error (.refused key))

/-- A call at the fifth level, and behind it one at the third. -/
def halfDeep : Node :=
  let span (line start stop : Nat) : Span := ⟨⟨line, start⟩, ⟨line, stop⟩⟩
  .form .module [
    .form .exprStmt [.call (.name "f")
      [.call (.name "g") [.call (.name "__") [.text "a"] [] (span 1 4 11)] [] (span 1 2 12)] []
      (span 1 0 13)],
    .form .exprStmt [.call (.name "__") [.text "b"] [] (span 2 0 7)]]

/-- Under a limit of three levels the first call in it is noted and the second one is refused, which leaves
no level open. -/
theorem depth_of_reaches_refused :
    (parseModule "f(g(__('a')))\n__('b')\n".toList).toOption = some halfDeep ∧ (0 : Int) ≤ 3 ∧
      ∃ scan, Scan.ofTree refuser (.of "f(g(__('a')))\n__('b')\n") { limit := 3 } { module := "a.py" }
          halfDeep = (.error (.fold (.lookup (.refused "b"))), scan) ∧
        scan.skipped = [⟨⟨1, 4⟩, ⟨1, 11⟩⟩] ∧ scan.guard = { limit := 3 } ∧
        Reaches refuser (.of "f(g(__('a')))\n__('b')\n") (start 3 { module := "a.py" } halfDeep)
          ⟨.leave (.error (.fold (.lookup (.refused "b")))), [], scan⟩ := by
  obtain ⟨-, ⟨hreaches, hguard, -⟩, -⟩ :=
    depth_of_reaches refuser (.of "f(g(__('a')))\n__('b')\n") { module := "a.py" } halfDeep
      (show (0 : Int) ≤ 3 by decide)
  exact ⟨by decide +kernel, by decide, _, rfl, by decide +kernel, hguard, hreaches⟩

end Moment

end Localize
