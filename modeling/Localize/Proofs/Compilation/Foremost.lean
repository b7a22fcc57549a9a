/-
  Where calls beyond the limit on nesting are reported. A scan notes them by the nodes at which it turns
  back, and level by level below each of these, and what is reported is the location of the foremost one
  in this order (`exists_foremost`). A deeper call comes after a shallow one there, though it may start
  before it in the text. So the location is that of the call that starts first just where the foremost
  one does, and in a tree that is read in the order of its text, just where no call below the same node is
  read before it (`buildModule_foremost`).
-/
import Localize.Proofs.Compilation.Body
import Localize.Proofs.Position.Lines

namespace Localize

open Syntax

namespace Syntax.Node

/-- A call of the localization function that lies beyond the levels of a scan, with its span. -/
structure SkippedAt (name : String) (levels : Nat) (tree : Node) (path : List Nat) (span : Span) :
    Prop where
  deep : levels ≤ path.length
  call : (tree.at? path).bind (spanOf? name) = some span

/-- The call that a scan of some levels notes before all others that it does not come to. -/
structure Foremost (name : String) (levels : Nat) (tree : Node) (path : List Nat) (span : Span) :
    Prop where
  skipped : tree.SkippedAt name levels path span
  sooner : ∀ path' span', tree.SkippedAt name levels path' span' → path' ≠ path →
    Sooner levels path path'

/-- A span that starts no later in the text than any call that a scan does not come to. -/
def StartsFirst (name : String) (levels : Nat) (index : LineIndex) (tree : Node) (span : Span) : Prop :=
  ∀ path' span', tree.SkippedAt name levels path' span' →
    index.place span.start ≤ index.place span'.start

/-- The location of a call that starts first of those that a scan does not come to. -/
def LocatesFirst (name : String) (levels : Nat) (index : LineIndex) (tree : Node) (location : Location) :
    Prop :=
  ∃ path span, tree.SkippedAt name levels path span ∧ index.locationOfSpan span = .ok location ∧
    tree.StartsFirst name levels index span

/-- The calls that a scan does not come to start in the order in which they are read. -/
def InTextOrder (name : String) (levels : Nat) (index : LineIndex) (tree : Node) : Prop :=
  ∀ path path' span span', tree.SkippedAt name levels path span →
    tree.SkippedAt name levels path' span' → path < path' →
      index.place span.start < index.place span'.start

end Syntax.Node

section Foremost

variable {name : String} {levels : Nat} {index : LineIndex} {tree : Node} {path : List Nat} {span : Span}

/-! ## The foremost call -/

theorem Syntax.Node.SkippedAt.mem_beyondTo (h : tree.SkippedAt name levels path span) :
    ∃ call, (path, call) ∈ beyondTo name levels tree ∧ call.spanOf? name = some span := by
  obtain ⟨call, hat, hspan⟩ := Option.bind_eq_some_iff.mp h.call
  refine ⟨call, Localize.mem_beyondTo.mpr ⟨hat, h.deep, ?_⟩, hspan⟩
  rw [← isSome_spanOf?, hspan]
  rfl

theorem Syntax.Node.SkippedAt.hasCall (h : tree.SkippedAt name levels path span) :
    tree.HasCall path span := by
  obtain ⟨call, hat, hspan⟩ := Option.bind_eq_some_iff.mp h.call
  exact hasCall_of_spanOf? hat hspan

theorem skippedAt_of_mem_beyondTo {call : Node} (h : (path, call) ∈ beyondTo name levels tree)
    (hspan : call.spanOf? name = some span) : tree.SkippedAt name levels path span := by
  obtain ⟨hat, hlength, -⟩ := mem_beyondTo.mp h
  exact ⟨hlength, Option.bind_eq_some_iff.mpr ⟨call, hat, hspan⟩⟩

/-- What a scan notes first is the foremost call. -/
theorem foremost_of_beyondTo {call : Node} {rest : List (List Nat × Node)}
    (h : beyondTo name levels tree = (path, call) :: rest) (hspan : call.spanOf? name = some span) :
    tree.Foremost name levels path span := by
  have horder := pairwise_beyondTo name levels tree
  rw [h, List.map_cons, List.pairwise_cons] at horder
  constructor
  · exact skippedAt_of_mem_beyondTo (h ▸ List.mem_cons_self) hspan
  · intro path' span' hskipped hne
    obtain ⟨call', hmem, -⟩ := hskipped.mem_beyondTo
    rw [h] at hmem
    rcases List.mem_cons.mp hmem with heq | hmem
    · exact absurd (Prod.mk.inj heq).1 hne
    · exact horder.1 path' (List.mem_map_of_mem (f := Prod.fst) hmem)

/-- Where calls are skipped, there is a foremost one, and it is the first that a scan notes. -/
theorem exists_foremost (h : tree.Located index)
    (hskipped : ∃ path span, tree.SkippedAt name levels path span) :
    ∃ path span rest, tree.Foremost name levels path span ∧
      (stops name index levels tree).flatMap Stop.spans = span :: rest := by
  obtain ⟨path, span, hskipped⟩ := hskipped
  obtain ⟨call, hmem, -⟩ := hskipped.mem_beyondTo
  have hspans := map_beyondTo h name levels
  rcases hbeyond : beyondTo name levels tree with _ | ⟨⟨path, call⟩, rest⟩
  · rw [hbeyond] at hmem
    cases hmem
  · rw [hbeyond, List.map_cons] at hspans
    obtain ⟨span, rest', hsplit, hspan, -⟩ := List.map_eq_cons_iff.mp hspans.symm
    exact ⟨path, span, rest', foremost_of_beyondTo hbeyond hspan.symm, hsplit⟩

/-- What is reported of skipped calls is the location of the first that the scan notes. -/
theorem nesting_of_body {config : Config} {rest : List Span} {location : Location}
    (hspans : (stops config.functionName index Guard.traversal.levels tree).flatMap Stop.spans =
      span :: rest)
    (hlocation : index.locationOfSpan span = .ok location) {id source : String}
    {mark text : List Char} {m : Module}
    (h : (Yield.of config (stops config.functionName index Guard.traversal.levels tree)).body id source
      mark text index = .ok m) :
    m.buildErrors = [.nesting id 150 (rest.length + 1) location] := by
  obtain ⟨hending, -, hnesting⟩ := Yield.body_ok h
  obtain ⟨-, -, hskipped, -⟩ := Yield.of_feasible (feasible_of_ending hending)
  rw [hskipped, hspans] at hnesting
  unfold nestingErrors at hnesting
  dsimp only at hnesting
  rw [hlocation] at hnesting
  exact (Except.ok.inj hnesting).symm

/-! ## The call that starts first -/

/-- The foremost call has the location of a call that starts first if it does start first itself. -/
theorem locatesFirst_iff (hplaced : tree.WellPlaced index.lines)
    (hskipped : tree.SkippedAt name levels path span) {location : Location}
    (hlocation : index.locationOfSpan span = .ok location) :
    tree.LocatesFirst name levels index location ↔ tree.StartsFirst name levels index span := by
  constructor
  · rintro ⟨path', span', hskipped', hlocation', hfirst⟩
    have hsame := LineIndex.place_eq_of_location (hplaced.placed _ _ hskipped.hasCall)
      (hplaced.placed _ _ hskipped'.hasCall) hlocation hlocation'
    unfold Node.StartsFirst
    rwa [hsame]
  · exact fun hfirst => ⟨path, span, hskipped, hlocation, hfirst⟩

theorem lt_of_take_lt {n : Nat} {p q : List Nat} (hp : n ≤ p.length) (hq : n ≤ q.length)
    (h : p.take n < q.take n) : p < q := by
  have hlength : (p.take n).length = (q.take n).length := by
    rw [List.length_take_of_le hp, List.length_take_of_le hq]
  have happend := Node.append_lt_append hlength h (p.drop n) (q.drop n)
  rwa [List.take_append_drop, List.take_append_drop] at happend

/-- In a tree that is read in the order of its text, the foremost call starts first just where no
call below the node at which the scan turns back is read before it. -/
theorem startsFirst_iff (hforemost : tree.Foremost name levels path span)
    (horder : tree.InTextOrder name levels index) :
    tree.StartsFirst name levels index span ↔
      ∀ path' span', tree.SkippedAt name levels path' span' → path'.take levels = path.take levels →
        ¬ path' < path := by
  have hskipped := hforemost.skipped
  constructor
  · intro hfirst path' span' hskipped' _ hlt
    have hbefore := horder _ _ _ _ hskipped' hskipped hlt
    exact Nat.not_le_of_lt hbefore (hfirst path' span' hskipped')
  · intro hbelow path' span' hskipped'
    by_cases hsame : path' = path
    · subst hsame
      rw [Option.some.inj (hskipped.call.symm.trans hskipped'.call)]
    · -- What lies below a later node is read later, and what lies below the same node by assumption.
      have hlater : path < path' := by
        rcases hforemost.sooner path' span' hskipped' hsame with hturn | ⟨hturn, -⟩
        · exact lt_of_take_lt hskipped.deep hskipped'.deep hturn
        · exact (lt_or_gt_of_ne (Ne.symm hsame)).resolve_right (hbelow path' span' hskipped' hturn.symm)
      exact Nat.le_of_lt (horder _ _ _ _ hskipped hskipped' hlater)

end Foremost

namespace Compilation

/-- A build of a source in which calls are skipped reports the first of them that the scan notes. -/
theorem buildModule_nesting (c : Compilation) (id : String) {source : String} {tree : Node}
    (hread : treeOf? source = some tree) (hplaced : tree.WellPlaced (splitLines (textOf source)))
    {path : List Nat} {span : Span} {rest : List Span}
    (hskipped : tree.SkippedAt c.config.functionName 150 path span)
    (hspans : (stops c.config.functionName (indexOf (textOf source)) 150 tree).flatMap Stop.spans =
      span :: rest) :
    ∃ location,
      (indexOf (textOf source)).locationOfSpan span = .ok location ∧
      (c.config.Total → ∃ m, (c.buildModule id source).2 = .ok m) ∧
      (∀ m, (c.buildModule id source).2 = .ok m →
        m.buildErrors = [.nesting id 150 (rest.length + 1) location]) ∧
      (tree.LocatesFirst c.config.functionName 150 (indexOf (textOf source)) location ↔
        tree.StartsFirst c.config.functionName 150 (indexOf (textOf source)) span) := by
  have hplaced' : tree.WellPlaced (indexOf (textOf source)).lines := hplaced
  obtain ⟨location, hlocation⟩ :=
    (indexOf (textOf source)).locationOfSpan_of_placed (hplaced'.placed _ _ hskipped.hasCall)
  refine ⟨location, hlocation, ?_, ?_, locatesFirst_iff hplaced' hskipped hlocation⟩
  · intro htotal
    obtain ⟨w, -, hrun⟩ := c.buildModule_run id
    obtain ⟨body, hbody, -⟩ := bodyOf_output c.config c.files id hread hplaced' htotal
    rw [hrun source, hbody]
    exact ⟨_, rfl⟩
  · intro m hm
    obtain ⟨body, window, hbody, rfl⟩ := body_of_buildModule hm
    rw [bodyOf_of_tree c.config c.files id hread] at hbody
    show body.buildErrors = _
    exact nesting_of_body hspans hlocation hbody

/-- A build of a source in which calls are skipped returns a module, where sources answer every key, and
reports the location of the foremost of these calls with it. This is the location of a call that
starts first in the text just where the foremost one does; and where calls start in the order in
which they are read, just where none that lies below the same node at the last level is read before it. -/
theorem buildModule_foremost (c : Compilation) (id : String) {source : String} {tree : Node}
    (hread : treeOf? source = some tree) (hplaced : tree.WellPlaced (splitLines (textOf source)))
    (hskipped : ∃ path span, tree.SkippedAt c.config.functionName 150 path span) :
    ∃ path span location,
      tree.Foremost c.config.functionName 150 path span ∧
      (indexOf (textOf source)).locationOfSpan span = .ok location ∧
      (c.config.Total → ∃ m, (c.buildModule id source).2 = .ok m) ∧
      (∀ m, (c.buildModule id source).2 = .ok m →
        ∃ count, m.buildErrors = [.nesting id 150 count location]) ∧
      (tree.LocatesFirst c.config.functionName 150 (indexOf (textOf source)) location ↔
        tree.StartsFirst c.config.functionName 150 (indexOf (textOf source)) span) ∧
      (tree.InTextOrder c.config.functionName 150 (indexOf (textOf source)) →
        (tree.LocatesFirst c.config.functionName 150 (indexOf (textOf source)) location ↔
          ∀ path' span', tree.SkippedAt c.config.functionName 150 path' span' →
            path'.take 150 = path.take 150 → ¬ path' < path)) := by
  have hlocated : tree.Located (indexOf (textOf source)) := Node.WellPlaced.located hplaced
  obtain ⟨path, span, rest, hforemost, hspans⟩ := exists_foremost hlocated hskipped
  obtain ⟨location, hlocation, hbuilt, hreported, hfirst⟩ :=
    c.buildModule_nesting id hread hplaced hforemost.skipped hspans
  exact ⟨path, span, location, hforemost, hlocation, hbuilt, fun m hm => ⟨_, hreported m hm⟩, hfirst,
    fun horder => hfirst.trans (startsFirst_iff hforemost horder)⟩

/-- A sum below 148 signs, with a call in a call on its left and a call on its right. -/
def unevenText : List Char :=
  "x = ".toList ++ List.replicate 148 '-' ++ "(f(__('a')) + __('b'))\n".toList

def uneven : String := String.ofList unevenText

/-- The call on the left, which lies a level deeper than the one on the right. -/
def unevenLeft : List Nat × Span :=
  ([0, 1] ++ List.replicate 148 0 ++ [0, 1], ⟨⟨1, 155⟩, ⟨1, 162⟩⟩)

def unevenRight : List Nat × Span := ([0, 1] ++ List.replicate 148 0 ++ [1], ⟨⟨1, 166⟩, ⟨1, 173⟩⟩)

theorem textOf_uneven : textOf uneven = unevenText := textOf_ofList (by decide +kernel)

theorem treeOf?_uneven :
    ∃ tree, treeOf? uneven = some tree ∧ tree.WellPlaced (splitLines (textOf uneven)) ∧
      tree.SkippedAt "__" 150 unevenLeft.1 unevenLeft.2 ∧
      tree.SkippedAt "__" 150 unevenRight.1 unevenRight.2 ∧
      (stops "__" (indexOf (textOf uneven)) 150 tree).flatMap Stop.spans =
        [unevenRight.2, unevenLeft.2] := by
  rw [textOf_uneven]
  have hread : treeOf? uneven = (parseModule unevenText).toOption :=
    treeOf?_ofList (by decide +kernel) (by decide +kernel)
  have hknown : (parseModule unevenText).toOption.map (fun tree =>
      (tree.exceeds 156, tree.callsTo 156, decide (
        (tree.at? unevenLeft.1).bind (Node.spanOf? "__") = some unevenLeft.2 ∧
        (tree.at? unevenRight.1).bind (Node.spanOf? "__") = some unevenRight.2 ∧
        (stops "__" (indexOf unevenText) 150 tree).flatMap Stop.spans =
          [unevenRight.2, unevenLeft.2]))) =
      some (false, [([0, 1] ++ List.replicate 148 0 ++ [0], ⟨⟨1, 153⟩, ⟨1, 163⟩⟩), unevenLeft,
        unevenRight], true) := by decide +kernel
  rw [← hread] at hknown
  obtain ⟨tree, hread, hplaced, hleft, hright, hspans⟩ :=
    Node.exists_wellPlaced_with (splitLines unevenText) hknown (by decide +kernel) (by decide +kernel)
  exact ⟨tree, hread, hplaced, ⟨by decide +kernel, hleft⟩, ⟨by decide +kernel, hright⟩, hspans⟩

/-- What is skipped in it is reported at the call on the right, though the one on the left starts before
that. -/
theorem buildModule_uneven :
    ∃ tree m location, treeOf? uneven = some tree ∧
      tree.WellPlaced (splitLines (textOf uneven)) ∧
      ((fresh sampleConfig []).buildModule "a.py" uneven).2 = .ok m ∧
      m.buildErrors = [.nesting "a.py" 150 2 location] ∧
      ¬ tree.LocatesFirst sampleConfig.functionName 150 (indexOf (textOf uneven)) location := by
  obtain ⟨tree, hread, hplaced, hleft, hright, hspans⟩ := treeOf?_uneven
  obtain ⟨location, -, hbuilt, hreported, hfirst⟩ :=
    (fresh sampleConfig []).buildModule_nesting "a.py" hread hplaced hright hspans
  obtain ⟨m, hm⟩ := hbuilt sampleConfig_total
  refine ⟨tree, m, location, hread, hplaced, hm, hreported m hm, fun hlocates => ?_⟩
  have hle := hfirst.mp hlocates _ _ hleft
  rw [textOf_uneven] at hle
  exact absurd hle (by decide +kernel)

/-- The calls in it are skipped. -/
theorem buildModule_foremost_uneven :
    ∃ tree path span location, treeOf? uneven = some tree ∧
      tree.WellPlaced (splitLines (textOf uneven)) ∧
      (∃ path span, tree.SkippedAt sampleConfig.functionName 150 path span) ∧
      tree.Foremost sampleConfig.functionName 150 path span ∧
      (indexOf (textOf uneven)).locationOfSpan span = .ok location ∧
      ∃ m count, ((fresh sampleConfig []).buildModule "a.py" uneven).2 = .ok m ∧
        m.buildErrors = [.nesting "a.py" 150 count location] := by
  obtain ⟨tree, hread, hplaced, hleft, -⟩ := treeOf?_uneven
  obtain ⟨path, span, location, hforemost, hlocation, hbuilt, hreported, -⟩ :=
    buildModule_foremost (fresh sampleConfig []) "a.py" hread hplaced ⟨_, _, hleft⟩
  obtain ⟨m, hm⟩ := hbuilt sampleConfig_total
  obtain ⟨count, herrors⟩ := hreported m hm
  exact ⟨tree, path, span, location, hread, hplaced, ⟨_, _, hleft⟩, hforemost, hlocation, m, count,
    hm, herrors⟩

end Compilation

end Localize
