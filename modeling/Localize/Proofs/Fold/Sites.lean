/-
  Which calls a scan folds, and where they stand. A node is named by its path from the root.
  `WellPlaced` is what is taken for granted of a tree that was read: its calls have their places in the
  text, and calls of which neither lies in the other have them apart. `mem_sites_iff` says that
  the sites of a scan are the call sites that lie in no other call site and not beyond the limit,
  and `pairwise_sites` that their ranges lie apart.
-/
import Localize.Proofs.Fold.Stops
import Localize.Proofs.Position.Offset

namespace Localize

open Syntax

namespace Syntax.Node

/-! ## Paths -/

/-- The node at the end of a path, which names a child by its number at each level. -/
def at? : List Nat → Node → Option Node
  | [], node => some node
  | i :: path, node => node.children[i]?.bind (at? path)

theorem at?_append (path rest : List Nat) (tree : Node) :
    tree.at? (path ++ rest) = (tree.at? path).bind (at? rest) := by
  induction path generalizing tree with
  | nil => rfl
  | cons i path ih =>
    rw [List.cons_append, at?, at?, Option.bind_assoc]
    exact Option.bind_congr fun child _ => ih child

/-- A call at the end of a path, with its span. -/
def HasCall (tree : Node) (path : List Nat) (span : Span) : Prop :=
  ∃ callee arguments keywords, tree.at? path = some (.call callee arguments keywords span)

theorem HasCall.child {tree child : Node} {i : Nat} {path : List Nat} {span : Span}
    (hi : tree.children[i]? = some child) (h : child.HasCall path span) :
    tree.HasCall (i :: path) span := by
  obtain ⟨callee, arguments, keywords, h⟩ := h
  refine ⟨callee, arguments, keywords, ?_⟩
  rw [at?, hi]
  exact h

/-- The calls of a tree have their places in the lines, and calls of which neither lies in the other
lie apart. -/
structure WellPlaced (lines : List (List Char)) (tree : Node) : Prop where
  placed : ∀ path span, tree.HasCall path span → span.Placed lines
  apart : ∀ path path' span span', tree.HasCall path span → tree.HasCall path' span' →
    ¬ path <+: path' → ¬ path' <+: path → span.Apart span'

theorem WellPlaced.child {lines : List (List Char)} {tree child : Node} {i : Nat}
    (h : tree.WellPlaced lines) (hi : tree.children[i]? = some child) : child.WellPlaced lines := by
  constructor
  · intro path span hcall
    exact h.placed _ span (hcall.child hi)
  · intro path path' span span' hcall hcall' hpp' hp'p
    refine h.apart _ _ span span' (hcall.child hi) (hcall'.child hi) ?_ ?_
    · rwa [List.prefix_cons_inj]
    · rwa [List.prefix_cons_inj]

/-- A node that is a call itself, at the empty path. -/
def ownCall : Node → List (List Nat × Span)
  | .call _ _ _ span => [([], span)]
  | _ => []

/-- The calls of a tree with their paths, as many levels down as given. -/
def callsTo : Nat → Node → List (List Nat × Span)
  | 0, _ => []
  | levels + 1, node =>
    node.ownCall ++ node.children.zipIdx.flatMap fun (child, i) =>
      (callsTo levels child).map fun (path, span) => (i :: path, span)

theorem mem_callsTo {levels : Nat} {tree : Node} (hdeep : tree.exceeds levels = false)
    {path : List Nat} {span : Span} (h : tree.HasCall path span) :
    (path, span) ∈ tree.callsTo levels := by
  induction levels generalizing tree path with
  | zero => cases hdeep
  | succ levels ih =>
    obtain ⟨callee, arguments, keywords, h⟩ := h
    rw [callsTo, List.mem_append]
    rcases path with _ | ⟨i, path⟩
    · cases h
      exact .inl List.mem_cons_self
    · right
      rw [at?, Option.bind_eq_some_iff] at h
      obtain ⟨child, hi, hchild⟩ := h
      have hshallow : child.exceeds levels = false := by
        rw [exceeds, List.any_eq_false] at hdeep
        exact Bool.eq_false_iff.mpr (hdeep child (List.mem_of_getElem? hi))
      refine List.mem_flatMap.mpr ⟨(child, i), List.mem_zipIdx_iff_getElem?.mpr hi, ?_⟩
      exact List.mem_map.mpr ⟨(path, span), ih hshallow ⟨callee, arguments, keywords, hchild⟩, rfl⟩

/-- It is enough to look at the calls down to a level that no node exceeds. -/
theorem wellPlaced_of_callsTo {lines : List (List Char)} {levels : Nat} {tree : Node}
    (hdeep : tree.exceeds levels = false)
    (hplaced : ∀ c ∈ tree.callsTo levels, c.2.Placed lines)
    (hapart : ∀ c ∈ tree.callsTo levels, ∀ d ∈ tree.callsTo levels,
      ¬ c.1 <+: d.1 → ¬ d.1 <+: c.1 → c.2.Apart d.2) :
    tree.WellPlaced lines :=
  ⟨fun _ _ h => hplaced _ (mem_callsTo hdeep h),
    fun _ _ _ _ h h' => hapart _ (mem_callsTo hdeep h) _ (mem_callsTo hdeep h')⟩

/-- A tree whose calls are known is well-placed if these are. -/
theorem exists_wellPlaced {lines : List (List Char)} {levels : Nat} {tree? : Option Node}
    {calls : List (List Nat × Span)}
    (h : tree?.map (fun tree => (tree.exceeds levels, tree.callsTo levels)) = some (false, calls))
    (hplaced : ∀ c ∈ calls, c.2.Placed lines)
    (hapart : ∀ c ∈ calls, ∀ d ∈ calls, ¬ c.1 <+: d.1 → ¬ d.1 <+: c.1 → c.2.Apart d.2) :
    ∃ tree, tree? = some tree ∧ tree.WellPlaced lines := by
  obtain ⟨tree, hread, hcheck⟩ := Option.map_eq_some_iff.mp h
  obtain ⟨hdeep, rfl⟩ := Prod.mk.inj hcheck
  exact ⟨tree, hread, wellPlaced_of_callsTo hdeep hplaced hapart⟩

/-- A tree whose calls are known is well-placed if these are, and has what else was found out of it. -/
theorem exists_wellPlaced_with (lines : List (List Char)) {p : Node → Prop} [DecidablePred p]
    {levels : Nat} {tree? : Option Node} {calls : List (List Nat × Span)}
    (h : tree?.map (fun tree => (tree.exceeds levels, tree.callsTo levels, decide (p tree))) =
      some (false, calls, true))
    (hplaced : ∀ c ∈ calls, c.2.Placed lines)
    (hapart : ∀ c ∈ calls, ∀ d ∈ calls, ¬ c.1 <+: d.1 → ¬ d.1 <+: c.1 → c.2.Apart d.2) :
    ∃ tree, tree? = some tree ∧ tree.WellPlaced lines ∧ p tree := by
  obtain ⟨tree, hread, hcheck⟩ := Option.map_eq_some_iff.mp h
  obtain ⟨hdeep, hrest⟩ := Prod.mk.inj hcheck
  obtain ⟨rfl, hknown⟩ := Prod.mk.inj hrest
  exact ⟨tree, hread, wellPlaced_of_callsTo hdeep hplaced hapart, of_decide_eq_true hknown⟩

/-! ## Call sites -/

/-- A call site at the end of a path. -/
def SiteAt (name : String) (index : LineIndex) (tree : Node) (path : List Nat) (s : CallSite) : Prop :=
  ∃ node, tree.at? path = some node ∧ CallSite.of? name index node = .ok (some s)

/-- A call site that a scan of some levels folds: it lies in no other one and not beyond the levels. -/
structure FoldedAt (name : String) (index : LineIndex) (levels : Nat) (tree : Node)
    (path : List Nat) (s : CallSite) : Prop where
  site : tree.SiteAt name index path s
  outermost : ∀ outer t, outer <+: path → tree.SiteAt name index outer t → outer = path
  within : path.length < levels

end Syntax.Node

/-- What a call site is: a call of the localization function in a shape that can be folded, with the
range and the location of its span. -/
theorem CallSite.of?_eq_some {name : String} {index : LineIndex} {node : Node} {s : CallSite}
    (h : CallSite.of? name index node = .ok (some s)) :
    ∃ callee arguments keywords span, node = .call callee arguments keywords span ∧
      node.isLocalizationCall name = true ∧ node.keyAndText = some (s.key, s.text) ∧
      index.rangeOfSpan span = .ok s.range ∧ index.locationOfSpan span = .ok s.location := by
  cases node with
  | call callee arguments keywords span =>
    refine ⟨callee, arguments, keywords, span, rfl, ?_⟩
    unfold CallSite.of? at h
    dsimp only at h
    split at h
    · rename_i hcall
      rcases hkey : (Node.call callee arguments keywords span).keyAndText with _ | ⟨key, text⟩
      · rw [hkey] at h
        cases h
      · rw [hkey] at h
        dsimp only at h
        rcases hrange : index.rangeOfSpan span with e | range
        · rw [hrange] at h
          cases h
        · rcases hlocation : index.locationOfSpan span with e | location
          · rw [hrange, hlocation] at h
            cases h
          · rw [hrange, hlocation] at h
            cases h
            exact ⟨hcall, rfl, rfl, rfl⟩
    · cases h
  | _ => cases h

/-- Where a call has its place in the text, it can be told whether it is a call site. -/
theorem CallSite.of?_of_placed (name : String) (index : LineIndex) {tree : Node}
    (h : tree.WellPlaced index.lines) : ∃ s?, CallSite.of? name index tree = .ok s? := by
  cases tree with
  | call callee arguments keywords span =>
    have hplaced := h.placed [] span ⟨callee, arguments, keywords, rfl⟩
    obtain ⟨hle, hrange⟩ := index.rangeOfSpan_of_placed hplaced
    obtain ⟨location, hlocation⟩ := index.locationOfSpan_of_placed hplaced
    unfold CallSite.of?
    dsimp only
    split
    · rcases (Node.call callee arguments keywords span).keyAndText with _ | ⟨key, text⟩
      · exact ⟨none, rfl⟩
      · dsimp only
        rw [hrange, hlocation]
        exact ⟨_, rfl⟩
    · exact ⟨none, rfl⟩
  | _ => exact ⟨none, rfl⟩

/-- The call site of a stop, if it is one. -/
def Stop.site? : Stop → Option CallSite
  | .site s => some s
  | _ => none

/-- The call sites that a scan of some levels folds. -/
def sites (name : String) (index : LineIndex) (levels : Nat) (tree : Node) : List CallSite :=
  (stops name index levels tree).filterMap Stop.site?

section Sites

variable {name : String} {index : LineIndex} {tree : Node}

theorem sites_zero : sites name index 0 tree = [] := rfl

theorem sites_of_site {s : CallSite} (h : CallSite.of? name index tree = .ok (some s)) (levels : Nat) :
    sites name index (levels + 1) tree = [s] := by
  unfold sites stops Stop.ofCall
  rw [h]
  rfl

theorem sites_of_none (h : CallSite.of? name index tree = .ok none) (levels : Nat) :
    sites name index (levels + 1) tree = tree.children.flatMap (sites name index levels) := by
  unfold sites
  rw [stops, Stop.ofCall, h]
  dsimp only
  rw [List.filterMap_flatMap]

theorem sites_of_error {e : PositionError} (h : CallSite.of? name index tree = .error e)
    (levels : Nat) : sites name index (levels + 1) tree = [] := by
  unfold sites stops Stop.ofCall
  rw [h]
  rfl

theorem siteAt_nil {s : CallSite} :
    tree.SiteAt name index [] s ↔ CallSite.of? name index tree = .ok (some s) := by
  constructor
  · rintro ⟨node, hnode, hof⟩
    cases hnode
    exact hof
  · intro h
    exact ⟨tree, rfl, h⟩

theorem siteAt_cons {i : Nat} {path : List Nat} {s : CallSite} :
    tree.SiteAt name index (i :: path) s ↔
      ∃ child, tree.children[i]? = some child ∧ child.SiteAt name index path s := by
  constructor
  · rintro ⟨node, hnode, hof⟩
    rw [Node.at?, Option.bind_eq_some_iff] at hnode
    obtain ⟨child, hi, hpath⟩ := hnode
    exact ⟨child, hi, node, hpath, hof⟩
  · rintro ⟨child, hi, node, hpath, hof⟩
    refine ⟨node, ?_, hof⟩
    rw [Node.at?, hi]
    exact hpath

theorem foldedAt_of_site {t : CallSite} (h : CallSite.of? name index tree = .ok (some t))
    {levels : Nat} {path : List Nat} {s : CallSite} :
    tree.FoldedAt name index (levels + 1) path s ↔ path = [] ∧ s = t := by
  constructor
  · intro hs
    have hpath : [] = path := hs.outermost [] t List.nil_prefix (siteAt_nil.mpr h)
    have hsite := hs.site
    rw [← hpath, siteAt_nil, h] at hsite
    cases hsite
    exact ⟨hpath.symm, rfl⟩
  · rintro ⟨rfl, rfl⟩
    exact ⟨siteAt_nil.mpr h, fun outer _ houter _ => List.prefix_nil.mp houter, Nat.succ_pos _⟩

theorem foldedAt_of_none (h : CallSite.of? name index tree = .ok none) {levels : Nat}
    {path : List Nat} {s : CallSite} :
    tree.FoldedAt name index (levels + 1) path s ↔
      ∃ i inner child, path = i :: inner ∧ tree.children[i]? = some child ∧
        child.FoldedAt name index levels inner s := by
  have hroot : ∀ t, ¬ tree.SiteAt name index [] t := by
    intro t ht
    rw [siteAt_nil, h] at ht
    cases ht
  constructor
  · intro hs
    rcases path with _ | ⟨i, inner⟩
    · exact absurd hs.site (hroot s)
    · obtain ⟨child, hi, hsite⟩ := siteAt_cons.mp hs.site
      refine ⟨i, inner, child, rfl, hi, hsite, ?_, Nat.lt_of_succ_lt_succ hs.within⟩
      intro outer t houter ht
      have := hs.outermost (i :: outer) t ((List.prefix_cons_inj i).mpr houter)
        (siteAt_cons.mpr ⟨child, hi, ht⟩)
      exact (List.cons.inj this).2
  · rintro ⟨i, inner, child, rfl, hi, hs⟩
    refine ⟨siteAt_cons.mpr ⟨child, hi, hs.site⟩, ?_, Nat.succ_lt_succ hs.within⟩
    intro outer t houter ht
    rcases outer with _ | ⟨j, outer⟩
    · exact absurd ht (hroot t)
    · obtain ⟨rfl, hinner⟩ := List.cons_prefix_cons.mp houter
      obtain ⟨child', hj, ht⟩ := siteAt_cons.mp ht
      rw [hi] at hj
      cases hj
      rw [hs.outermost outer t hinner ht]

/-- What a scan folds lies in no other call site and not beyond its levels. -/
theorem exists_foldedAt {levels : Nat} {s : CallSite} (hs : s ∈ sites name index levels tree) :
    ∃ path, tree.FoldedAt name index levels path s := by
  induction levels generalizing tree with
  | zero => cases hs
  | succ levels ih =>
    rcases hof : CallSite.of? name index tree with e | (_ | t)
    · rw [sites_of_error hof] at hs
      cases hs
    · rw [sites_of_none hof, List.mem_flatMap] at hs
      obtain ⟨child, hchild, hs⟩ := hs
      obtain ⟨i, hi⟩ := List.getElem?_of_mem hchild
      obtain ⟨inner, hfolded⟩ := ih hs
      exact ⟨i :: inner, (foldedAt_of_none hof).mpr ⟨i, inner, child, rfl, hi, hfolded⟩⟩
    · rw [sites_of_site hof, List.mem_singleton] at hs
      exact ⟨[], (foldedAt_of_site hof).mpr ⟨rfl, hs⟩⟩

/-- A scan folds the call sites that lie in no other one and not beyond its levels. -/
theorem mem_sites_iff (h : tree.WellPlaced index.lines) (levels : Nat) (s : CallSite) :
    s ∈ sites name index levels tree ↔ ∃ path, tree.FoldedAt name index levels path s := by
  refine ⟨exists_foldedAt, ?_⟩
  induction levels generalizing tree with
  | zero =>
    rintro ⟨path, hs⟩
    exact absurd hs.within (Nat.not_lt_zero _)
  | succ levels ih =>
    rintro ⟨path, hs⟩
    obtain ⟨_ | t, hof⟩ := CallSite.of?_of_placed name index h
    · obtain ⟨i, inner, child, -, hi, hfolded⟩ := (foldedAt_of_none hof).mp hs
      rw [sites_of_none hof, List.mem_flatMap]
      exact ⟨child, List.mem_of_getElem? hi, ih (h.child hi) ⟨inner, hfolded⟩⟩
    · rw [sites_of_site hof, List.mem_singleton]
      exact ((foldedAt_of_site hof).mp hs).2

/-! ## Ranges of call sites -/

/-- Call sites whose ranges have no common character. -/
def CallSite.Apart (s t : CallSite) : Prop :=
  s.range.stop ≤ t.range.start ∨ t.range.stop ≤ s.range.start

theorem siteAt_span {path : List Nat} {s : CallSite} (hs : tree.SiteAt name index path s) :
    ∃ span, tree.HasCall path span ∧ index.rangeOfSpan span = .ok s.range := by
  obtain ⟨node, hpath, hof⟩ := hs
  obtain ⟨callee, arguments, keywords, span, rfl, -, -, hrange, -⟩ := CallSite.of?_eq_some hof
  exact ⟨span, ⟨callee, arguments, keywords, hpath⟩, hrange⟩

/-- The range of a call site holds something and lies in the text. -/
theorem siteAt_range (h : tree.WellPlaced index.lines) {path : List Nat} {s : CallSite}
    (hs : tree.SiteAt name index path s) :
    s.range.start < s.range.stop ∧ s.range.stop ≤ index.text.length := by
  obtain ⟨span, hcall, hrange⟩ := siteAt_span hs
  have hplaced := h.placed path span hcall
  obtain ⟨hle, hplace⟩ := index.rangeOfSpan_of_placed hplaced
  rw [Except.ok.inj (hrange.symm.trans hplace)]
  exact ⟨LineIndex.place_lt hplaced.start hplaced.stop hplaced.ordered,
    LineIndex.place_le_length hplaced.stop.reached⟩

/-- Spans that lie apart have ranges that lie apart. -/
theorem apart_of_spans {span span' : Span} (hspan : span.Placed index.lines)
    (hspan' : span'.Placed index.lines) (h : span.Apart span') {s t : CallSite}
    (hs : index.rangeOfSpan span = .ok s.range) (ht : index.rangeOfSpan span' = .ok t.range) :
    s.Apart t := by
  obtain ⟨_, hplace⟩ := index.rangeOfSpan_of_placed hspan
  obtain ⟨_, hplace'⟩ := index.rangeOfSpan_of_placed hspan'
  have hsr := Except.ok.inj (hs.symm.trans hplace)
  have htr := Except.ok.inj (ht.symm.trans hplace')
  unfold CallSite.Apart
  rw [hsr, htr]
  rcases h with h | h
  · exact .inl (LineIndex.place_mono hspan.stop.reached hspan'.start.isIn.reached h)
  · exact .inr (LineIndex.place_mono hspan'.stop.reached hspan.start.isIn.reached h)

/-- The ranges of the call sites that a scan folds lie apart. -/
theorem pairwise_sites (h : tree.WellPlaced index.lines) (levels : Nat) :
    (sites name index levels tree).Pairwise CallSite.Apart := by
  induction levels generalizing tree with
  | zero =>
    rw [sites_zero]
    exact .nil
  | succ levels ih =>
    obtain ⟨_ | t, hof⟩ := CallSite.of?_of_placed name index h
    · rw [sites_of_none hof, List.pairwise_flatMap]
      constructor
      · intro child hchild
        obtain ⟨i, hi⟩ := List.getElem?_of_mem hchild
        exact ih (h.child hi)
      · rw [List.pairwise_iff_getElem]
        intro i j hi hj hij s hs t ht
        have hi' := List.getElem?_eq_getElem hi
        have hj' := List.getElem?_eq_getElem hj
        obtain ⟨p, hp⟩ := (mem_sites_iff (h.child hi') levels s).mp hs
        obtain ⟨q, hq⟩ := (mem_sites_iff (h.child hj') levels t).mp ht
        obtain ⟨span, hcall, hrange⟩ := siteAt_span (siteAt_cons.mpr ⟨_, hi', hp.site⟩)
        obtain ⟨span', hcall', hrange'⟩ := siteAt_span (siteAt_cons.mpr ⟨_, hj', hq.site⟩)
        have hpq : ¬ i :: p <+: j :: q := fun hpre => by
          have := (List.cons_prefix_cons.mp hpre).1
          omega
        have hqp : ¬ j :: q <+: i :: p := fun hpre => by
          have := (List.cons_prefix_cons.mp hpre).1
          omega
        exact apart_of_spans (h.placed _ _ hcall) (h.placed _ _ hcall')
          (h.apart _ _ _ _ hcall hcall' hpq hqp) hrange hrange'
    · rw [sites_of_site hof]
      exact List.pairwise_singleton _ _

end Sites

end Localize
