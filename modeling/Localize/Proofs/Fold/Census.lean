/-
  Every call of the localization function in a tree is accounted for. A call that can be folded has
  constant texts only, so there is no other call in it (`isFoldable_inner`), and not looking inside of
  it loses nothing. So a scan folds just those calls within its levels that can be folded, in reading
  order (`map_foldedTo`), and skips just those beyond its levels (`map_beyondTo`), in the order in which
  it turns back and then level by level (`pairwise_beyondTo`).
-/
import Localize.Proofs.Fold.Paths

namespace Localize

open Syntax

namespace Syntax.Node

/-! ## Constant texts have no calls in them -/

/-- A tree without calls. -/
def CallFree (node : Node) : Prop := ∀ path span, ¬ node.HasCall path span

theorem hasCall_cons {tree : Node} {i : Nat} {path : List Nat} {span : Span} :
    tree.HasCall (i :: path) span ↔
      ∃ child, tree.children[i]? = some child ∧ child.HasCall path span := by
  constructor
  · rintro ⟨callee, arguments, keywords, h⟩
    rw [at?, Option.bind_eq_some_iff] at h
    obtain ⟨child, hi, h⟩ := h
    exact ⟨child, hi, callee, arguments, keywords, h⟩
  · rintro ⟨child, hi, h⟩
    exact h.child hi

theorem callFree_of_children {node : Node} (hself : node.ownCall = [])
    (h : ∀ child ∈ node.children, child.CallFree) : node.CallFree := by
  rintro (_ | ⟨i, path⟩) span hcall
  · obtain ⟨callee, arguments, keywords, hnode⟩ := hcall
    cases hnode
    cases hself
  · obtain ⟨child, hi, hcall⟩ := hasCall_cons.mp hcall
    exact h child (List.mem_of_getElem? hi) path span hcall

theorem callFree_text (s : String) : (text s).CallFree :=
  callFree_of_children rfl nofun

theorem callFree_of_joinedText {parts : List Node} {s : String} (h : joinedText parts = some s) :
    ∀ n ∈ parts, n.CallFree := by
  induction parts generalizing s with
  | nil => nofun
  | cons first rest ih =>
    cases first with
    | text t =>
      rw [joinedText, Option.map_eq_some_iff] at h
      obtain ⟨t', hrest, -⟩ := h
      intro n hn
      rcases List.mem_cons.mp hn with rfl | hn
      · exact callFree_text t
      · exact ih hrest n hn
    | _ => cases h

theorem callFree_of_operandText {node : Node} {s : String} (h : node.operandText = some s) :
    node.CallFree := by
  cases node with
  | text t => exact callFree_text t
  | joined parts =>
    exact callFree_of_children rfl (callFree_of_joinedText h)
  | _ => cases h

/-- What is no sum is taken for a constant. -/
theorem evaluateFrom_operand {node : Node} (hsum : ∀ left right, node ≠ sum left right) {rounds : Nat}
    {pending : List Node} {texts : List String} {s : String}
    (h : evaluateFrom (rounds + 1) (node :: pending) texts = some s) :
    ∃ t, node.operandText = some t ∧ evaluateFrom rounds pending (t :: texts) = some s := by
  rw [evaluateFrom.eq_4 _ _ _ _ hsum] at h
  rcases ht : node.operandText with _ | t
  · rw [ht] at h
    cases h
  · rw [ht] at h
    exact ⟨t, rfl, h⟩

/-- What was taken apart to the end had no calls in it. -/
theorem callFree_of_evaluateFrom {rounds : Nat} {pending : List Node} {texts : List String}
    {s : String} (h : evaluateFrom rounds pending texts = some s) : ∀ n ∈ pending, n.CallFree := by
  induction rounds generalizing pending texts with
  | zero =>
    cases pending with
    | nil => nofun
    | cons node pending => cases h
  | succ rounds ih =>
    cases pending with
    | nil => nofun
    | cons node pending =>
      rw [List.forall_mem_cons]
      by_cases hsum : ∃ left right, node = sum left right
      · obtain ⟨left, right, rfl⟩ := hsum
        have hparts := ih h
        simp only [List.forall_mem_cons] at hparts
        obtain ⟨hleft, hright, hpending⟩ := hparts
        refine ⟨callFree_of_children rfl ?_, hpending⟩
        simpa [children] using ⟨hleft, hright⟩
      · have hsum' : ∀ left right, node ≠ sum left right := fun l r heq => hsum ⟨l, r, heq⟩
        obtain ⟨t, ht, hrest⟩ := evaluateFrom_operand hsum' h
        exact ⟨callFree_of_operandText ht, ih hrest⟩

theorem callFree_of_constantText {node : Node} {s : String} (h : node.constantText = some s) :
    node.CallFree := callFree_of_evaluateFrom h node List.mem_cons_self

/-! ## Calls that can be folded -/

/-- Whether a node is a call of the localization function, in a shape that can be folded and with
constant texts. -/
def isFoldable (name : String) (node : Node) : Bool :=
  node.isLocalizationCall name && node.keyAndText.isSome

theorem callFree_arguments {callee : Node} {arguments keywords : List Node} {span : Span}
    (h : (call callee arguments keywords span).keyAndText.isSome) :
    ∀ n ∈ arguments, n.CallFree := by
  obtain ⟨⟨key, text⟩, h⟩ := Option.isSome_iff_exists.mp h
  match arguments with
  | [single] =>
    obtain ⟨key, hkey, -⟩ := Option.bind_eq_some_iff.mp h
    intro n hn
    rw [List.mem_singleton.mp hn]
    exact callFree_of_constantText hkey
  | [default, key] =>
    obtain ⟨_, hkey, h⟩ := Option.bind_eq_some_iff.mp h
    obtain ⟨_, hdefault, -⟩ := Option.bind_eq_some_iff.mp h
    simp only [List.forall_mem_cons]
    exact ⟨callFree_of_constantText hdefault, callFree_of_constantText hkey, nofun⟩
  | [] => cases h
  | _ :: _ :: _ :: _ => cases h

/-- A call that can be folded has no other call in it. -/
theorem isFoldable_inner {name : String} {node : Node} (h : node.isFoldable name) :
    ∀ child ∈ node.children, child.CallFree := by
  obtain ⟨hcall, hkey⟩ := Bool.and_eq_true_iff.mp h
  obtain ⟨hname, hplain⟩ := Bool.and_eq_true_iff.mp hcall
  match node with
  | .call (.name id) arguments keywords span =>
    have hkeywords : keywords = [] := by
      simp only [hasPlainArguments, Bool.and_eq_true, List.isEmpty_iff] at hplain
      exact hplain.1.1
    have hcallee : (Node.name id).CallFree :=
      callFree_of_children rfl nofun
    rw [children, hkeywords, List.append_nil, List.forall_mem_cons]
    exact ⟨hcallee, callFree_arguments hkey⟩

/-- No node below a call that can be folded calls anything. -/
theorem at?_inner {name : String} {tree : Node} (h : tree.isFoldable name) {i : Nat}
    {path : List Nat} {n : Node} (hn : tree.at? (i :: path) = some n) :
    n.callsName name = false := by
  rw [at?, Option.bind_eq_some_iff] at hn
  obtain ⟨child, hi, hn⟩ := hn
  have hfree := isFoldable_inner h child (List.mem_of_getElem? hi)
  cases n with
  | call callee arguments keywords span => exact absurd ⟨callee, arguments, keywords, hn⟩ (hfree path span)
  | _ => rfl

theorem callsName_of_isFoldable {name : String} {node : Node} (h : node.isFoldable name) :
    node.callsName name :=
  (Bool.and_eq_true_iff.mp (Bool.and_eq_true_iff.mp h).1).1

/-- The calls of a tree have a range and a location. -/
def Located (index : LineIndex) (tree : Node) : Prop :=
  ∀ path span, tree.HasCall path span →
    (∃ range, index.rangeOfSpan span = .ok range) ∧ ∃ location, index.locationOfSpan span = .ok location

theorem Located.child {index : LineIndex} {tree child : Node} {i : Nat} (h : tree.Located index)
    (hi : tree.children[i]? = some child) : child.Located index :=
  fun _ span hcall => h _ span (hcall.child hi)

theorem WellPlaced.located {index : LineIndex} {tree : Node} (h : tree.WellPlaced index.lines) :
    tree.Located index := by
  intro path span hcall
  have hplaced := h.placed path span hcall
  exact ⟨⟨_, (index.rangeOfSpan_of_placed hplaced).2⟩, index.locationOfSpan_of_placed hplaced⟩

end Syntax.Node

open Syntax.Node (Located)

section Census

variable {name : String} {index : LineIndex} {tree : Node}

/-- A call that can be folded is a call site, where its place can be told. -/
theorem CallSite.of?_of_foldable (h : tree.Located index) (hfold : tree.isFoldable name) :
    ∃ s, CallSite.of? name index tree = .ok (some s) := by
  obtain ⟨hcall, hkey⟩ := Bool.and_eq_true_iff.mp hfold
  obtain ⟨⟨key, text⟩, hkey⟩ := Option.isSome_iff_exists.mp hkey
  cases tree with
  | call callee arguments keywords span =>
    obtain ⟨⟨range, hrange⟩, location, hlocation⟩ := h [] span ⟨callee, arguments, keywords, rfl⟩
    refine ⟨⟨key, text, range, location⟩, ?_⟩
    rw [CallSite.of?, if_pos hcall, hkey]
    dsimp only
    rw [hrange, hlocation]
    rfl
  | _ => cases hcall

theorem CallSite.of?_of_not_foldable (hfold : ¬ tree.isFoldable name) :
    CallSite.of? name index tree = .ok none := by
  cases tree with
  | call callee arguments keywords span =>
    unfold CallSite.of?
    dsimp only
    split
    · rename_i hcall
      rcases hkey : (Node.call callee arguments keywords span).keyAndText with _ | kt
      · rfl
      · exact absurd (by rw [Node.isFoldable, hcall, hkey]; rfl) hfold
    · rfl
  | _ => rfl

/-! ## Calls that are folded -/

/-- The calls that a scan of some levels folds, in reading order. -/
def foldedTo (name : String) (levels : Nat) (tree : Node) : List (List Nat × Node) :=
  (tree.nodesTo levels).filter fun e => e.2.isFoldable name

theorem mem_foldedTo {levels : Nat} {path : List Nat} {n : Node} :
    (path, n) ∈ foldedTo name levels tree ↔
      tree.at? path = some n ∧ path.length < levels ∧ n.isFoldable name := by
  rw [foldedTo, List.mem_filter, Node.mem_nodesTo, and_assoc]

theorem pairwise_foldedTo (name : String) (levels : Nat) (tree : Node) :
    ((foldedTo name levels tree).map Prod.fst).Pairwise (· < ·) :=
  (Node.pairwise_nodesTo levels tree).sublist (List.filter_sublist.map _)

theorem foldedTo_of_foldable (h : tree.isFoldable name) (levels : Nat) :
    foldedTo name (levels + 1) tree = [([], tree)] := by
  have hinner : (tree.inChildren (Node.nodesTo levels)).filter (fun e => e.2.isFoldable name) = [] := by
    rw [List.filter_eq_nil_iff]
    rintro ⟨path, n⟩ hn hfold
    obtain ⟨i, child, inner, rfl, hi, hmem⟩ := Node.mem_inChildren.mp hn
    have hat : tree.at? (i :: inner) = some n := by
      rw [Node.at?, hi]
      exact (Node.mem_nodesTo.mp hmem).1
    have hname := Node.callsName_of_isFoldable hfold
    rw [Node.at?_inner h hat] at hname
    cases hname
  rw [foldedTo, Node.nodesTo, List.filter_cons_of_pos (by simpa using h), hinner]

theorem foldedTo_of_not_foldable (h : ¬ tree.isFoldable name) (levels : Nat) :
    foldedTo name (levels + 1) tree = tree.inChildren (foldedTo name levels) := by
  rw [foldedTo, Node.nodesTo, List.filter_cons_of_neg (by simpa using h), Node.filter_inChildren]
  rfl

/-- The call sites of a scan are those of the calls that it folds. -/
theorem map_foldedTo (h : tree.Located index) (name : String) (levels : Nat) :
    (foldedTo name levels tree).map (fun e => CallSite.of? name index e.2) =
      (sites name index levels tree).map fun s => .ok (some s) := by
  induction levels generalizing tree with
  | zero => rfl
  | succ levels ih =>
    by_cases hfold : tree.isFoldable name
    · obtain ⟨s, hs⟩ := CallSite.of?_of_foldable h hfold
      rw [foldedTo_of_foldable hfold, sites_of_site hs, List.map_singleton, hs]
      rfl
    · rw [foldedTo_of_not_foldable hfold, sites_of_none (CallSite.of?_of_not_foldable hfold),
        Node.map_inChildren _ (CallSite.of? name index), List.map_flatMap]
      refine List.flatMap_congr fun child hchild => ?_
      obtain ⟨i, hi⟩ := List.getElem?_of_mem hchild
      exact ih (h.child hi)

/-! ## Calls that are skipped -/

/-- The spans of a stop beyond the limit. -/
def Stop.spans : Stop → List Span
  | .beyond spans => spans
  | _ => []

/-- The calls of the localization function that a scan of some levels does not come to. -/
def beyondTo (name : String) : Nat → Node → List (List Nat × Node)
  | 0, node => node.byLevel.filter fun e => e.2.callsName name
  | levels + 1, node =>
    if node.isFoldable name then [] else node.inChildren (beyondTo name levels)

theorem mem_beyondTo {levels : Nat} {path : List Nat} {n : Node} :
    (path, n) ∈ beyondTo name levels tree ↔
      tree.at? path = some n ∧ levels ≤ path.length ∧ n.callsName name := by
  induction levels generalizing tree path with
  | zero =>
    rw [beyondTo, List.mem_filter, Node.mem_byLevel]
    simp
  | succ levels ih =>
    rw [beyondTo]
    split
    · rename_i hfold
      refine ⟨nofun, ?_⟩
      rintro ⟨hat, hlength, hname⟩
      rcases path with _ | ⟨i, path⟩
      · exact absurd hlength (Nat.not_succ_le_zero levels)
      · rw [Node.at?_inner hfold hat] at hname
        cases hname
    · rw [Node.mem_inChildren]
      constructor
      · rintro ⟨i, child, inner, rfl, hi, hmem⟩
        obtain ⟨hat, hlength, hname⟩ := ih.mp hmem
        refine ⟨?_, Nat.succ_le_succ hlength, hname⟩
        rw [Node.at?, hi]
        exact hat
      · rintro ⟨hat, hlength, hname⟩
        rcases path with _ | ⟨i, path⟩
        · exact absurd hlength (Nat.not_succ_le_zero levels)
        · rw [Node.at?, Option.bind_eq_some_iff] at hat
          obtain ⟨child, hi, hat⟩ := hat
          exact ⟨i, child, path, rfl, hi, ih.mpr ⟨hat, Nat.le_of_succ_le_succ hlength, hname⟩⟩

/-- The order in which a scan of some levels notes what it does not come to: by the nodes at which it turns
back, in reading order, and level by level below each of them. -/
def Sooner (levels : Nat) (p q : List Nat) : Prop :=
  p.take levels < q.take levels ∨
    p.take levels = q.take levels ∧ List.Shortlex (· < ·) (p.drop levels) (q.drop levels)

theorem Sooner.cons {levels i : Nat} {p q : List Nat} (h : Sooner levels p q) :
    Sooner (levels + 1) (i :: p) (i :: q) := by
  rcases h with h | ⟨h, hbelow⟩
  · exact .inl (List.cons_lt_cons_self.mpr h)
  · exact .inr ⟨congrArg (i :: ·) h, hbelow⟩

theorem Sooner.of_lt {levels i j : Nat} (h : i < j) (p q : List Nat) :
    Sooner (levels + 1) (i :: p) (j :: q) :=
  .inl (List.Lex.rel h)

theorem Sooner.ne {levels : Nat} {p q : List Nat} (h : Sooner levels p q) : p ≠ q := by
  rintro rfl
  rcases h with h | ⟨-, h⟩
  · exact List.lt_irrefl _ h
  · exact irrefl_of (List.Shortlex (· < ·)) _ h

theorem pairwise_beyondTo (name : String) (levels : Nat) (tree : Node) :
    ((beyondTo name levels tree).map Prod.fst).Pairwise (Sooner levels) := by
  induction levels generalizing tree with
  | zero =>
    refine (tree.pairwise_byLevel.sublist (List.filter_sublist.map _)).imp fun h => ?_
    exact .inr ⟨rfl, h⟩
  | succ levels ih =>
    rw [beyondTo]
    split
    · exact .nil
    · refine Node.pairwise_inChildren ?_ ?_ fun child _ => ih child
      · exact fun i p q hpq => hpq.cons
      · exact fun i j p q hij => .of_lt hij p q

theorem nodup_beyondTo (name : String) (levels : Nat) (tree : Node) :
    ((beyondTo name levels tree).map Prod.fst).Nodup :=
  (pairwise_beyondTo name levels tree).imp Sooner.ne

/-- The span of a call of the localization function. -/
def Syntax.Node.spanOf? (name : String) : Node → Option Span
  | .call (.name id) _ _ span => if id = name then some span else none
  | _ => none

theorem isSome_spanOf? (node : Node) : (node.spanOf? name).isSome = node.callsName name := by
  cases node with
  | call callee arguments keywords span =>
    cases callee with
    | name id =>
      show (if id = name then some span else none).isSome = decide (id = name)
      split <;> simp_all
    | _ => rfl
  | _ => rfl

theorem map_filter_callsName (nodes : List (List Nat × Node)) :
    (nodes.filter fun e => e.2.callsName name).map (fun e => e.2.spanOf? name) =
      (nodes.filterMap fun e => e.2.spanOf? name).map some := by
  induction nodes with
  | nil => rfl
  | cons e nodes ih =>
    rw [List.filter_cons, List.filterMap_cons, ← isSome_spanOf?]
    rcases hspan : e.2.spanOf? name with _ | span
    · exact ih
    · show e.2.spanOf? name :: _ = some span :: _
      rw [hspan, ih]

theorem callsWithin_eq (node : Node) :
    callsWithin name node = (node.byLevel.map Prod.snd).filterMap (·.spanOf? name) := by
  rw [Node.map_byLevel]
  rfl

/-- What a scan skips are the spans of the calls that it does not come to. -/
theorem map_beyondTo (h : tree.Located index) (name : String) (levels : Nat) :
    (beyondTo name levels tree).map (fun e => e.2.spanOf? name) =
      ((stops name index levels tree).flatMap Stop.spans).map some := by
  induction levels generalizing tree with
  | zero =>
    rw [stops, List.flatMap_singleton, Stop.spans, callsWithin_eq, beyondTo, List.filterMap_map]
    exact map_filter_callsName tree.byLevel
  | succ levels ih =>
    by_cases hfold : tree.isFoldable name
    · obtain ⟨s, hs⟩ := CallSite.of?_of_foldable h hfold
      rw [beyondTo, if_pos hfold, stops, Stop.ofCall, hs]
      rfl
    · rw [beyondTo, if_neg hfold, stops, Stop.ofCall, CallSite.of?_of_not_foldable hfold,
        Node.map_inChildren _ (Node.spanOf? name), List.flatMap_assoc, List.map_flatMap]
      refine List.flatMap_congr fun child hchild => ?_
      obtain ⟨i, hi⟩ := List.getElem?_of_mem hchild
      exact ih (h.child hi)

theorem hasCall_of_spanOf? {path : List Nat} {n : Node} {span : Span} (hat : tree.at? path = some n)
    (hspan : n.spanOf? name = some span) : tree.HasCall path span := by
  cases n with
  | call callee arguments keywords own =>
    cases callee with
    | name id =>
      dsimp only [Syntax.Node.spanOf?] at hspan
      split at hspan
      · cases hspan
        exact ⟨.name id, arguments, keywords, hat⟩
      · cases hspan
    | _ => cases hspan
  | _ => cases hspan

/-- What a scan skips are calls of the tree. -/
theorem hasCall_of_mem_spans (h : tree.Located index) (name : String) (levels : Nat) {span : Span}
    (hspan : span ∈ (stops name index levels tree).flatMap Stop.spans) :
    ∃ path, tree.HasCall path span := by
  have hmem := List.mem_map_of_mem (f := some) hspan
  rw [← map_beyondTo h, List.mem_map] at hmem
  obtain ⟨⟨path, n⟩, hn, hspan⟩ := hmem
  exact ⟨path, hasCall_of_spanOf? (mem_beyondTo.mp hn).1 hspan⟩

/-- All calls that a scan comes to have their places. -/
theorem not_misplaced (name : String) (h : tree.Located index) (levels : Nat) (e : PositionError) :
    Stop.misplaced e ∉ stops name index levels tree := by
  induction levels generalizing tree with
  | zero =>
    intro he
    cases List.mem_singleton.mp he
  | succ levels ih =>
    intro he
    rw [stops, Stop.ofCall] at he
    by_cases hfold : tree.isFoldable name
    · obtain ⟨s, hs⟩ := CallSite.of?_of_foldable h hfold
      rw [hs] at he
      cases List.mem_singleton.mp he
    · rw [CallSite.of?_of_not_foldable hfold] at he
      obtain ⟨child, hchild, he⟩ := List.mem_flatMap.mp he
      obtain ⟨i, hi⟩ := List.getElem?_of_mem hchild
      exact ih (h.child hi) he

end Census

end Localize
