/-
  Nodes of a tree listed with their paths. In reading order the paths go up (`pairwise_nodesTo`). What
  is listed level by level is every node (`mem_byLevel`), the shorter paths first and those of one length
  in reading order (`pairwise_byLevel`).
-/
import Localize.Proofs.Fold.Sites
import Mathlib.Data.List.Shortlex

namespace Localize.Syntax.Node

/-! ## What is listed in the children of a node -/

section InChildren

variable {α : Type}

/-- What is listed for the children of a node, with paths that begin at the node. -/
def inChildren (f : Node → List (List Nat × α)) (node : Node) : List (List Nat × α) :=
  node.children.zipIdx.flatMap fun (child, i) => (f child).map fun (path, a) => (i :: path, a)

theorem mem_inChildren {f : Node → List (List Nat × α)} {node : Node} {path : List Nat} {a : α} :
    (path, a) ∈ node.inChildren f ↔
      ∃ i child inner, path = i :: inner ∧ node.children[i]? = some child ∧ (inner, a) ∈ f child := by
  unfold inChildren
  simp only [List.mem_flatMap, List.mem_map, Prod.mk.injEq]
  constructor
  · rintro ⟨⟨child, i⟩, hchild, ⟨inner, b⟩, hmem, rfl, rfl⟩
    exact ⟨i, child, inner, rfl, List.mem_zipIdx_iff_getElem?.mp hchild, hmem⟩
  · rintro ⟨i, child, inner, rfl, hi, hmem⟩
    exact ⟨(child, i), List.mem_zipIdx_iff_getElem?.mpr hi, (inner, a), hmem, rfl, rfl⟩

/-- What is listed, apart from the paths. -/
theorem map_inChildren {β : Type} (f : Node → List (List Nat × α)) (g : α → β) (node : Node) :
    (node.inChildren f).map (fun e => g e.2) =
      node.children.flatMap fun child => (f child).map fun e => g e.2 := by
  unfold inChildren
  rw [List.map_flatMap]
  conv_rhs => rw [← List.zipIdx_map_fst 0 node.children, List.flatMap_map]
  refine List.flatMap_congr fun e _ => ?_
  rw [List.map_map]
  rfl

theorem filter_inChildren (f : Node → List (List Nat × α)) (test : α → Bool) (node : Node) :
    (node.inChildren f).filter (fun e => test e.2) =
      node.inChildren fun child => (f child).filter fun e => test e.2 := by
  unfold inChildren
  rw [List.filter_flatMap]
  refine List.flatMap_congr fun e _ => ?_
  rw [List.filter_map]
  rfl

/-- The numbers of children go up. -/
theorem pairwise_children (node : Node) :
    node.children.zipIdx.Pairwise fun x y => x.2 < y.2 := by
  rw [← List.pairwise_map, List.zipIdx_map_snd]
  exact List.pairwise_lt_range'

/-- A relation of paths that goes by the first step, and then by a relation of the rests that holds along
what is listed for each child, holds along what is listed. -/
theorem pairwise_inChildren {r r' : List Nat → List Nat → Prop}
    (hrest : ∀ i p q, r p q → r' (i :: p) (i :: q)) (hfirst : ∀ i j p q, i < j → r' (i :: p) (j :: q))
    {f : Node → List (List Nat × α)} {node : Node}
    (h : ∀ child ∈ node.children, ((f child).map Prod.fst).Pairwise r) :
    ((node.inChildren f).map Prod.fst).Pairwise r' := by
  unfold inChildren
  rw [List.map_flatMap, List.pairwise_flatMap]
  constructor
  · rintro ⟨child, i⟩ hchild
    rw [List.map_map]
    have hchild := h child (List.mem_of_getElem? (List.mem_zipIdx_iff_getElem?.mp hchild))
    rw [List.pairwise_map] at hchild ⊢
    exact hchild.imp fun hpq => hrest i _ _ hpq
  · refine node.pairwise_children.imp fun {x y} hxy p hp q hq => ?_
    rw [List.map_map] at hp hq
    obtain ⟨e, -, rfl⟩ := List.mem_map.mp hp
    obtain ⟨e', -, rfl⟩ := List.mem_map.mp hq
    exact hfirst _ _ _ _ hxy

end InChildren

/-! ## Reading order -/

/-- The nodes of a tree in reading order with their paths, as many levels down as given. -/
def nodesTo : Nat → Node → List (List Nat × Node)
  | 0, _ => []
  | levels + 1, node => ([], node) :: node.inChildren (nodesTo levels)

theorem mem_nodesTo {levels : Nat} {tree : Node} {path : List Nat} {n : Node} :
    (path, n) ∈ nodesTo levels tree ↔ tree.at? path = some n ∧ path.length < levels := by
  induction levels generalizing tree path with
  | zero => simp [nodesTo]
  | succ levels ih =>
    rw [nodesTo, List.mem_cons, mem_inChildren]
    rcases path with _ | ⟨i, path⟩
    · simp [at?, eq_comm]
    · simp [at?, Option.bind_eq_some_iff, ih, ← and_assoc]

/-- In reading order paths go up: a node stands in front of what is below it, and what is below a child in
front of what is below the next one. -/
theorem pairwise_nodesTo (levels : Nat) (tree : Node) :
    ((nodesTo levels tree).map Prod.fst).Pairwise (· < ·) := by
  induction levels generalizing tree with
  | zero => exact .nil
  | succ levels ih =>
    rw [nodesTo, List.map_cons, List.pairwise_cons]
    constructor
    · intro path hpath
      obtain ⟨⟨p, n⟩, hp, rfl⟩ := List.mem_map.mp hpath
      obtain ⟨i, -, inner, rfl, -⟩ := mem_inChildren.mp hp
      exact List.nil_lt_cons i inner
    · refine pairwise_inChildren ?_ ?_ fun child _ => ih child
      · exact fun i p q hpq => List.cons_lt_cons_self.mpr hpq
      · exact fun i j p q hij => List.Lex.rel hij

/-! ## Level by level -/

/-- The children of nodes, with their paths. -/
def nextLevel (nodes : List (List Nat × Node)) : List (List Nat × Node) :=
  nodes.flatMap fun (path, node) => node.children.zipIdx.map fun (child, i) => (path ++ [i], child)

/-- The nodes of trees level by level with their paths, as many levels as given. -/
def levelsFrom : Nat → List (List Nat × Node) → List (List Nat × Node)
  | 0, _ => []
  | levels + 1, nodes => nodes ++ levelsFrom levels (nextLevel nodes)

theorem map_nextLevel (nodes : List (List Nat × Node)) :
    (nextLevel nodes).map Prod.snd = (nodes.map Prod.snd).flatMap children := by
  unfold nextLevel
  rw [List.map_flatMap, List.flatMap_map]
  refine List.flatMap_congr fun e _ => ?_
  rw [List.map_map]
  exact List.zipIdx_map_fst 0 e.2.children

theorem map_levelsFrom (levels : Nat) (nodes : List (List Nat × Node)) :
    (levelsFrom levels nodes).map Prod.snd = breadthFirst levels (nodes.map Prod.snd) := by
  induction levels generalizing nodes with
  | zero => rfl
  | succ levels ih => rw [levelsFrom, List.map_append, ih, map_nextLevel, breadthFirst]

theorem mem_nextLevel {nodes : List (List Nat × Node)} {path : List Nat} {n : Node} :
    (path, n) ∈ nextLevel nodes ↔
      ∃ front i node, path = front ++ [i] ∧ (front, node) ∈ nodes ∧ node.children[i]? = some n := by
  unfold nextLevel
  simp only [List.mem_flatMap, List.mem_map, Prod.mk.injEq]
  constructor
  · rintro ⟨⟨front, node⟩, hmem, ⟨child, i⟩, hchild, rfl, rfl⟩
    exact ⟨front, i, node, rfl, hmem, List.mem_zipIdx_iff_getElem?.mp hchild⟩
  · rintro ⟨front, i, node, rfl, hmem, hi⟩
    exact ⟨(front, node), hmem, (n, i), List.mem_zipIdx_iff_getElem?.mpr hi, rfl, rfl⟩

/-- Of two paths of one length the first in reading order is so whatever follows. -/
theorem append_lt_append {p q : List Nat} (hlength : p.length = q.length) (h : p < q)
    (p' q' : List Nat) : p ++ p' < q ++ q' := by
  induction p generalizing q with
  | nil =>
    rw [List.length_eq_zero_iff.mp hlength.symm] at h
    exact absurd h (List.lt_irrefl [])
  | cons i p ih =>
    rcases q with _ | ⟨j, q⟩
    · cases hlength
    · rcases List.cons_lt_cons_iff.mp h with hij | ⟨rfl, hpq⟩
      · exact List.cons_lt_cons_iff.mpr (.inl hij)
      · exact List.cons_lt_cons_iff.mpr (.inr ⟨rfl, ih (Nat.succ.inj hlength) hpq⟩)

/-- Nodes of a level have paths of one length, which go up. -/
structure IsLevel (k : Nat) (nodes : List (List Nat × Node)) : Prop where
  length : ∀ e ∈ nodes, e.1.length = k
  ordered : (nodes.map Prod.fst).Pairwise (· < ·)

theorem IsLevel.next {k : Nat} {nodes : List (List Nat × Node)} (h : IsLevel k nodes) :
    IsLevel (k + 1) (nextLevel nodes) := by
  constructor
  · rintro ⟨path, n⟩ he
    obtain ⟨front, i, node, rfl, hmem, -⟩ := mem_nextLevel.mp he
    rw [List.length_append, h.length _ hmem]
    rfl
  · have hordered := h.ordered
    unfold nextLevel
    rw [List.pairwise_map] at hordered
    rw [List.map_flatMap, List.pairwise_flatMap]
    constructor
    · rintro ⟨path, node⟩ -
      rw [List.map_map, List.pairwise_map]
      exact node.pairwise_children.imp fun hxy => List.append_left_lt (List.Lex.rel hxy)
    · -- Fronts of one length that go up decide, whatever steps come behind them.
      refine hordered.imp_of_mem fun {x y} hx hy hxy p hp q hq => ?_
      rw [List.map_map] at hp hq
      obtain ⟨e, -, rfl⟩ := List.mem_map.mp hp
      obtain ⟨e', -, rfl⟩ := List.mem_map.mp hq
      exact append_lt_append ((h.length x hx).trans (h.length y hy).symm) hxy _ _

/-- A level comes before those below it, whose paths are longer. -/
theorem pairwise_levelsFrom {k : Nat} {nodes : List (List Nat × Node)} (h : IsLevel k nodes)
    (levels : Nat) : (∀ e ∈ levelsFrom levels nodes, k ≤ e.1.length) ∧
      ((levelsFrom levels nodes).map Prod.fst).Pairwise (List.Shortlex (· < ·)) := by
  induction levels generalizing k nodes with
  | zero => exact ⟨nofun, .nil⟩
  | succ levels ih =>
    obtain ⟨hlonger, hbelow⟩ := ih h.next
    rw [levelsFrom, List.map_append, List.pairwise_append]
    refine ⟨?_, ?_, hbelow, ?_⟩
    · intro e he
      rcases List.mem_append.mp he with he | he
      · exact Nat.le_of_eq (h.length e he).symm
      · exact Nat.le_of_succ_le (hlonger e he)
    · have hordered := h.ordered
      rw [List.pairwise_map] at hordered ⊢
      exact hordered.imp_of_mem fun {x y} hx hy hxy =>
        .of_lex ((h.length x hx).trans (h.length y hy).symm) hxy
    · intro p hp q hq
      obtain ⟨e, he, rfl⟩ := List.mem_map.mp hp
      obtain ⟨e', he', rfl⟩ := List.mem_map.mp hq
      refine .of_length_lt ?_
      rw [h.length e he]
      exact hlonger e' he'

/-- Level by level come the nodes at the ends of all paths of less steps than levels. -/
theorem mem_levelsFrom {levels : Nat} {nodes : List (List Nat × Node)} {path : List Nat} {n : Node} :
    (path, n) ∈ levelsFrom levels nodes ↔
      ∃ front inner node, path = front ++ inner ∧ (front, node) ∈ nodes ∧
        node.at? inner = some n ∧ inner.length < levels := by
  induction levels generalizing nodes with
  | zero => simp [levelsFrom]
  | succ levels ih =>
    rw [levelsFrom, List.mem_append, ih]
    constructor
    · rintro (hmem | ⟨front, inner, node, rfl, hmem, hat, hlt⟩)
      · exact ⟨path, [], n, (List.append_nil path).symm, hmem, rfl, Nat.succ_pos levels⟩
      · obtain ⟨front, i, parent, rfl, hparent, hi⟩ := mem_nextLevel.mp hmem
        refine ⟨front, i :: inner, parent, List.append_assoc _ _ _, hparent, ?_, Nat.succ_lt_succ hlt⟩
        rw [at?, hi]
        exact hat
    · rintro ⟨front, _ | ⟨i, inner⟩, node, rfl, hmem, hat, hlt⟩
      · cases hat
        rw [List.append_nil]
        exact .inl hmem
      · rw [at?, Option.bind_eq_some_iff] at hat
        obtain ⟨child, hi, hat⟩ := hat
        refine .inr ⟨front ++ [i], inner, child, (List.append_assoc front [i] inner).symm, ?_, hat,
          Nat.lt_of_succ_lt_succ hlt⟩
        exact mem_nextLevel.mpr ⟨front, i, node, rfl, hmem, hi⟩

/-! ## All nodes -/

theorem height_le_heights {nodes : List Node} {n : Node} (h : n ∈ nodes) :
    n.height ≤ height.heights nodes := by
  induction nodes with
  | nil => cases h
  | cons first rest ih =>
    rw [height.heights]
    rcases List.mem_cons.mp h with rfl | h
    · exact Nat.le_max_left _ _
    · exact Nat.le_trans (ih h) (Nat.le_max_right _ _)

theorem heights_append (ns ms : List Node) :
    height.heights (ns ++ ms) = max (height.heights ns) (height.heights ms) := by
  induction ns with
  | nil => simp [height.heights]
  | cons n ns ih => simp [height.heights, ih, Nat.max_assoc]

theorem height_eq (node : Node) : node.height = height.heights node.children + 1 := by
  cases node <;> simp [height, children, height.heights, heights_append]

/-- What is true of a node whenever it is true of its children is true of every tree. -/
theorem induction_children {P : Node → Prop}
    (h : ∀ node : Node, (∀ child ∈ node.children, P child) → P node) (tree : Node) : P tree := by
  induction hheight : tree.height using Nat.strong_induction_on generalizing tree with
  | _ height ih =>
    refine h tree fun child hchild => ih child.height ?_ child rfl
    rw [← hheight, height_eq tree]
    exact Nat.lt_succ_of_le (height_le_heights hchild)

theorem length_lt_height {tree : Node} {path : List Nat} {n : Node} (h : tree.at? path = some n) :
    path.length < tree.height := by
  induction path generalizing tree with
  | nil =>
    rw [height_eq]
    exact Nat.succ_pos _
  | cons i path ih =>
    rw [at?, Option.bind_eq_some_iff] at h
    obtain ⟨child, hi, hchild⟩ := h
    have hheight := height_le_heights (List.mem_of_getElem? hi)
    rw [height_eq]
    exact Nat.succ_lt_succ (Nat.lt_of_lt_of_le (ih hchild) hheight)

/-- All nodes of a tree with their paths, level by level. -/
def byLevel (tree : Node) : List (List Nat × Node) := levelsFrom tree.height [([], tree)]

theorem map_byLevel (tree : Node) : tree.byLevel.map Prod.snd = breadthFirst tree.height [tree] :=
  map_levelsFrom tree.height [([], tree)]

/-- Level by level the shorter paths come first, and those of one length in reading order. -/
theorem pairwise_byLevel (tree : Node) :
    (tree.byLevel.map Prod.fst).Pairwise (List.Shortlex (· < ·)) := by
  have hroot : IsLevel 0 [([], tree)] :=
    ⟨fun e he => by rw [List.mem_singleton.mp he]; rfl, List.pairwise_singleton _ _⟩
  exact (pairwise_levelsFrom hroot tree.height).2

theorem mem_byLevel {tree : Node} {path : List Nat} {n : Node} :
    (path, n) ∈ tree.byLevel ↔ tree.at? path = some n := by
  unfold byLevel
  rw [mem_levelsFrom]
  constructor
  · rintro ⟨front, inner, node, rfl, hmem, hat, -⟩
    cases List.mem_singleton.mp hmem
    exact hat
  · intro hat
    exact ⟨[], path, tree, rfl, List.mem_singleton_self _, hat, length_lt_height hat⟩

end Localize.Syntax.Node
