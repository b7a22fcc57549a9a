/-
  Builds of a source in another style of line ends. The reader of source code takes a carriage return,
  with or without a line feed behind it, for a line feed, so that the tree is the same (`treeOf?_restyled`),
  unless it opens one more line behind a final pair of both. With the same tree the same calls are folded
  with the same literals at the same locations (`body_restyled`), the same misses are met
  (`entriesOf_restyled`), and the output is that of the source in the other style (`buildModule_restyled`).
-/
import Localize.Proofs.Compilation.Settled
import Localize.Proofs.Fold.Restyled
import Localize.Proofs.Syntax.Tree

namespace Localize

open Syntax

namespace LineStyle

/-- A source in another style. -/
def restyled (style : LineStyle) (source : String) : String := String.ofList (style.restyle source.toList)

variable (style : LineStyle)

theorem restyled_ofList (cs : List Char) :
    style.restyled (String.ofList cs) = String.ofList (style.restyle cs) := by
  rw [restyled, String.toList_ofList]

/-! ## Reading -/

theorem splitMark_restyle (cs : List Char) :
    splitMark (style.restyle cs) = ((splitMark cs).1, style.restyle (splitMark cs).2) := by
  cases cs with
  | nil => rfl
  | cons c rest =>
    by_cases hc : c = '\n'
    · obtain ⟨tail, hterminator⟩ := style.terminator_eq
      have hfirst : splitMark (c :: rest) = ([], c :: rest) := by
        rw [hc, splitMark, if_neg (by decide)]
      rw [hfirst, hc, style.restyle_feed, hterminator, List.cons_append, splitMark, if_neg (by decide)]
    · rw [style.restyle_cons hc, splitMark, splitMark]
      split
      · rfl
      · rw [style.restyle_cons hc]

theorem unifyNewlines_restyle {text : List Char} (h : '\r' ∉ text) :
    unifyNewlines (style.restyle text) = text := by
  induction text with
  | nil => rfl
  | cons c text ih =>
    obtain ⟨hc, htext⟩ : c ≠ '\r' ∧ '\r' ∉ text := by simpa [eq_comm] using h
    by_cases hfeed : c = '\n'
    · subst hfeed
      cases style with
      | pair => exact congrArg ('\n' :: ·) (ih htext)
      | carriage =>
        have hnext : ∀ rest, '\r' = '\r' → restyle .carriage text = '\n' :: rest → False := by
          intro rest _ hrest
          exact head?_restyle .carriage text (by rw [hrest]; rfl)
        have hstep : unifyNewlines ('\r' :: restyle .carriage text) =
            '\n' :: unifyNewlines (restyle .carriage text) := unifyNewlines.eq_3 _ _ hnext
        exact hstep.trans (congrArg ('\n' :: ·) (ih htext))
    · rw [style.restyle_cons hfeed, unifyNewlines.eq_3 _ _ fun _ hreturn _ => hc hreturn, if_neg hc,
        ih htext]

theorem endsWithPair_of_not_mem {text : List Char} (h : '\r' ∉ text) : endsWithPair text = false := by
  apply decide_eq_false
  intro hpair
  have hmem : '\r' ∈ text.reverse.take 2 := by simp [hpair]
  exact h (List.mem_reverse.mp (List.mem_of_mem_take hmem))

/-- Unless the text ends with a pair, the same is read in every style. -/
theorem parseModule_restyle {text : List Char} (h : '\r' ∉ text)
    (hend : endsWithPair (style.restyle text) = false) :
    parseModule (style.restyle text) = parseModule text := by
  have htext : moduleText (style.restyle text) = moduleText text := by
    unfold moduleText
    rw [style.unifyNewlines_restyle h, unifyNewlines_of_not_mem h, hend, endsWithPair_of_not_mem h]
  unfold parseModule lexModule
  rw [htext]

section Source

variable {source : String}

theorem textOf_restyled (source : String) : textOf (style.restyled source) = style.restyle (textOf source) := by
  unfold textOf restyled
  rw [String.toList_ofList, splitMark_restyle]

theorem markOf_restyled (source : String) : markOf (style.restyled source) = markOf source := by
  unfold markOf restyled
  rw [String.toList_ofList, splitMark_restyle]

theorem null_mem_restyled : '\x00' ∈ (style.restyled source).toList ↔ '\x00' ∈ source.toList := by
  rw [restyled, String.toList_ofList]
  exact style.mem_restyle (by decide) (by decide)

theorem not_mem_textOf (h : '\r' ∉ source.toList) : '\r' ∉ textOf source := by
  rw [← markOf_append_textOf] at h
  exact fun hmem => h (List.mem_append_right _ hmem)

theorem treeOf?_restyled (h : '\r' ∉ source.toList)
    (hend : endsWithPair (style.restyle (textOf source)) = false) :
    treeOf? (style.restyled source) = treeOf? source := by
  have hnull : ((style.restyle (textOf source)).contains '\x00') = (textOf source).contains '\x00' := by
    rw [Bool.eq_iff_iff, List.contains_iff_mem, List.contains_iff_mem]
    exact style.mem_restyle (by decide) (by decide)
  unfold treeOf?
  rw [style.textOf_restyled, hnull, style.parseModule_restyle (not_mem_textOf h) hend]

end Source

end LineStyle

theorem restyled_indexOf (style : LineStyle) {text : List Char} (h : '\r' ∉ text) :
    LineIndex.Restyled style (indexOf text) (indexOf (style.restyle text)) :=
  ⟨delimited_splitLines text, splitLines_restyle style h⟩

/-- The module of a text in another style, of which nothing but ranges and texts differs. -/
def Module.restyled (style : LineStyle) (text : List Char) (m : Module) : Module :=
  { m with
    source := style.restyled m.source
    output := style.restyled m.output
    dependencies := m.dependencies.map (Substitution.restyled style text) }

section Body

variable (config : Config) (style : LineStyle) {text : List Char} {tree : Node}

/-- A scan of the tree comes to the same in both styles. -/
theorem scanOf_restyled (h : '\r' ∉ text)
    (hplaced : tree.WellPlaced ((splitLines text).map lineBody)) :
    scanOf config (style.restyle text) tree = (scanOf config text tree).restyled style text := by
  unfold scanOf
  rw [stops_restyled config.functionName (restyled_indexOf style h) hplaced]
  exact Yield.of_restyled style text config _

theorem nestingErrors_restyled (id : String) (limit : Int) {skipped : List Span} (h : '\r' ∉ text)
    (hskipped : ∀ span ∈ skipped, span.Placed ((splitLines text).map lineBody)) :
    nestingErrors id (indexOf (style.restyle text)) limit skipped =
      nestingErrors id (indexOf text) limit skipped := by
  unfold nestingErrors
  rcases skipped with _ | ⟨first, rest⟩
  · rfl
  · have hlocation := LineIndex.locationOfSpan_restyled (restyled_indexOf style h)
      (hskipped first List.mem_cons_self)
    dsimp only
    rw [hlocation]

/-- What a finished scan puts in place lies in the text, and its literals hold no line feed. -/
theorem inside_of_ending (hplaced : tree.WellPlaced ((splitLines text).map lineBody))
    (hending : (scanOf config text tree).ending = .ok ()) :
    ∀ d ∈ (scanOf config text tree).substitutions,
      d.range.stop ≤ text.length ∧ '\n' ∉ d.encoded.toList := by
  obtain ⟨-, hfilled, -⟩ := Yield.of_feasible (feasible_of_ending hending)
  intro d hd
  unfold scanOf at hd
  rw [hfilled] at hd
  have hwhole : tree.WellPlaced (indexOf text).lines := hplaced.whole
  refine ⟨(fits_of_mem config hwhole _ hd).inside, fun hfeed => ?_⟩
  obtain ⟨s, -, hfill⟩ := List.mem_filterMap.mp hd
  obtain ⟨r, -, rfl⟩ := fill?_eq_some_iff.mp hfill
  exact absurd ((isQuoted_literal r.value).visible _ hfeed) (by decide)

/-- What a finished scan skips are calls of the tree. -/
theorem placed_of_ending (hplaced : tree.WellPlaced ((splitLines text).map lineBody))
    (hending : (scanOf config text tree).ending = .ok ()) :
    ∀ span ∈ (scanOf config text tree).skipped, span.Placed ((splitLines text).map lineBody) := by
  obtain ⟨-, -, hskipped, -⟩ := Yield.of_feasible (feasible_of_ending hending)
  intro span hspan
  unfold scanOf at hspan
  rw [hskipped] at hspan
  have hwhole : tree.WellPlaced (indexOf text).lines := hplaced.whole
  obtain ⟨path, hcall⟩ := hasCall_of_mem_spans hwhole.located _ _ hspan
  exact hplaced.placed path span hcall

/-- The module of a tree is the same in both styles, up to ranges and texts, or there is the same fault. -/
theorem body_restyled (h : '\r' ∉ text) (hplaced : tree.WellPlaced ((splitLines text).map lineBody))
    (id source : String) {mark : List Char} (hmark : '\n' ∉ mark) :
    (scanOf config (style.restyle text) tree).body id (style.restyled source) mark (style.restyle text)
        (indexOf (style.restyle text)) =
      ((scanOf config text tree).body id source mark text (indexOf text)).map
        (Module.restyled style text) := by
  rw [scanOf_restyled config style h hplaced]
  have hinside := inside_of_ending config hplaced
  have hspans := placed_of_ending config hplaced
  generalize scanOf config text tree = y at *
  unfold Yield.body
  have hending : (y.restyled style text).ending = y.ending := rfl
  rw [hending]
  rcases hend : y.ending with f | u
  · rfl
  · have hnesting := nestingErrors_restyled style id Guard.traversal.limit h (hspans hend)
    have hrender := Substitution.render_restyled style text (fun d hd => (hinside hend d hd).1)
      (fun d hd => (hinside hend d hd).2)
    dsimp only
    rw [Yield.moduleOf_start, Yield.moduleOf_start]
    have hskipped : (y.restyled style text).skipped = y.skipped := rfl
    have hsubstitutions : (y.restyled style text).substitutions =
        y.substitutions.map (Substitution.restyled style text) := rfl
    rw [hskipped, hsubstitutions, hnesting, hrender]
    rcases nestingErrors id (indexOf text) Guard.traversal.limit y.skipped with e | errors
    · rfl
    · rcases Substitution.render text y.substitutions with f | rendered
      · rfl
      · have houtput : String.ofList (mark ++ style.restyle rendered) =
            style.restyled (String.ofList (mark ++ rendered)) := by
          rw [style.restyled_ofList, style.restyle_append, style.restyle_of_not_mem hmark]
        show Except.ok _ = Except.ok _
        rw [houtput]
        rfl

end Body

/-! ## Builds -/

/-- A source whose calls have their places in its lines in front of the terminators, if it can be read. -/
def PlacedInBodies (source : String) : Prop :=
  ∀ tree, treeOf? source = some tree → tree.WellPlaced ((splitLines (textOf source)).map lineBody)

theorem PlacedInBodies.placed {source : String} (h : PlacedInBodies source) : Placed source :=
  fun tree hread => (h tree hread).whole

/-- The module of a source, and that of the source in another style. -/
structure Module.RestyledTo (style : LineStyle) (m m' : Module) : Prop where
  id : m'.id = m.id
  source : m'.source = style.restyled m.source
  output : m'.output = style.restyled m.output
  /-- Literals, locations, keys and outcomes are the same, and ranges are those of the same characters. -/
  dependencies : m'.dependencies = m.dependencies.map (Substitution.restyled style (textOf m.source))
  kinds : m'.buildErrors.map BuildError.kind = m.buildErrors.map BuildError.kind
  /-- What is said of a source that cannot be read may differ, and nothing else. -/
  buildErrors : (treeOf? m.source).isSome → m'.buildErrors = m.buildErrors
  warnings : m'.warnings = m.warnings
  errors : m'.errors = m.errors

theorem Module.restyledTo_restyled (style : LineStyle) (m : Module) :
    m.RestyledTo style (m.restyled style (textOf m.source)) :=
  ⟨rfl, rfl, rfl, rfl, rfl, fun _ => rfl, rfl, rfl⟩

/-- What a source is built to, and what it is built to in another style. -/
inductive Restyles (style : LineStyle) : Except BuildFault Module → Except BuildFault Module → Prop where
  | fault (f : BuildFault) : Restyles style (.error f) (.error f)
  | built {m m' : Module} (h : m.RestyledTo style m') : Restyles style (.ok m) (.ok m')

section Source

variable {style : LineStyle} {source : String}

theorem Restyles.withRecords {built built' : Except BuildFault Module} (h : Restyles style built built')
    (w : Window) : Restyles style (built.map (·.withRecords w)) (built'.map (·.withRecords w)) := by
  cases h with
  | fault f => exact .fault f
  | built h => exact .built { h with warnings := rfl, errors := rfl }

theorem Restyles.exists_of_ok {built built' : Except BuildFault Module} {m : Module}
    (h : Restyles style built built') (hm : built = .ok m) :
    ∃ m', built' = .ok m' ∧ m.RestyledTo style m' := by
  cases h with
  | fault f => cases hm
  | built h =>
    cases hm
    exact ⟨_, rfl, h⟩

/-- The body of a source that is read, in both styles. -/
theorem bodyOf_restyled_of_tree (config : Config) (files : List (String × Text.Bytes)) (id : String)
    (hreturn : '\r' ∉ source.toList) {tree : Node} (htree : treeOf? source = some tree)
    (htree' : treeOf? (style.restyled source) = some tree)
    (hplaced : tree.WellPlaced ((splitLines (textOf source)).map lineBody)) :
    bodyOf config files id (style.restyled source) =
      (bodyOf config files id source).map (Module.restyled style (textOf source)) := by
  have hmark : '\n' ∉ markOf source := fun h => absurd (eq_of_mem_markOf h) (by decide)
  rw [bodyOf_of_tree config files id htree, bodyOf_of_tree config files id htree',
    style.textOf_restyled, style.markOf_restyled]
  exact body_restyled config style (LineStyle.not_mem_textOf hreturn) hplaced id source hmark

theorem bodyOf_restyled (config : Config) (files : List (String × Text.Bytes)) (id : String)
    (hreturn : '\r' ∉ source.toList) (hread : treeOf? (style.restyled source) = treeOf? source)
    (hplaced : PlacedInBodies source) :
    Restyles style (bodyOf config files id source) (bodyOf config files id (style.restyled source)) := by
  rcases htree : treeOf? source with _ | tree
  · by_cases hnull : '\x00' ∈ source.toList
    · rw [bodyOf_of_null config files id hnull,
        bodyOf_of_null config files id (style.null_mem_restyled.mpr hnull)]
      exact .fault _
    · obtain ⟨reason, location, hbody⟩ := bodyOf_of_unread config files id hnull htree
      obtain ⟨reason', location', hbody'⟩ := bodyOf_of_unread config files id
        (mt style.null_mem_restyled.mp hnull) (hread.trans htree)
      rw [hbody, hbody']
      have hnone : ¬ (treeOf? source).isSome := by simp [htree]
      exact .built ⟨rfl, rfl, rfl, rfl, rfl, fun hsome => absurd hsome hnone, rfl, rfl⟩
  · rw [bodyOf_restyled_of_tree config files id hreturn htree (hread.trans htree) (hplaced tree htree)]
    rcases hbody : bodyOf config files id source with f | m
    · exact .fault f
    · rw [← (Module.IsBody.of_bodyOf hbody).source]
      exact .built (m.restyledTo_restyled style)

/-- The same misses are met in both styles. -/
theorem entriesOf_restyled (config : Config) (hreturn : '\r' ∉ source.toList)
    (hread : treeOf? (style.restyled source) = treeOf? source) (hplaced : PlacedInBodies source) :
    entriesOf config (style.restyled source) = entriesOf config source := by
  unfold entriesOf
  rw [hread]
  rcases htree : treeOf? source with _ | tree
  · rfl
  · dsimp only
    rw [style.textOf_restyled, scanOf_restyled config style (LineStyle.not_mem_textOf hreturn)
      (hplaced tree htree)]
    rfl

end Source

namespace Compilation

/-- In every compilation a source without carriage returns is built alike when its line feeds are written
as another terminator: with the same literals, keys, outcomes, locations and records, with build errors of
the same kinds, and to the same output but for its line feeds, which are written in that way too. If every
key is answered, only a null character keeps both from being built.

Behind a final carriage return and line feed the reader opens one more line; that it gets the same tree
nevertheless is taken for granted there, and that calls end in front of terminators everywhere. -/
theorem buildModule_restyled (c : Compilation) (id : String) (style : LineStyle) {source : String}
    (hreturn : '\r' ∉ source.toList)
    (hread : endsWithPair (style.restyle (textOf source)) →
      treeOf? (style.restyled source) = treeOf? source)
    (hplaced : PlacedInBodies source) :
    Restyles style (c.buildModule id source).2 (c.buildModule id (style.restyled source)).2 ∧
      (c.config.Total → '\x00' ∉ source.toList → ∃ m, (c.buildModule id source).2 = .ok m) := by
  have hsame : treeOf? (style.restyled source) = treeOf? source := by
    by_cases hend : endsWithPair (style.restyle (textOf source)) = true
    · exact hread hend
    · exact style.treeOf?_restyled hreturn (Bool.eq_false_iff.mpr hend)
  obtain ⟨w, -, hrun⟩ := buildModule_run c id
  rw [hrun source, hrun (style.restyled source)]
  have hwritten : written c.config (style.restyled source) w = written c.config source w := by
    unfold written
    rw [entriesOf_restyled c.config hreturn hsame hplaced]
  rw [hwritten]
  refine ⟨(bodyOf_restyled c.config c.files id hreturn hsame hplaced).withRecords _, ?_⟩
  intro htotal hnull
  obtain ⟨body, hbody⟩ := (bodyOf_of_placed c.files id htotal hplaced.placed).2 hnull
  exact ⟨_, by rw [hbody]; rfl⟩

/-- A source with a mark and a call that goes on in the next line. -/
def wrapped : String := "\ufeffprint(__('é',\n 'k'))\n"

theorem placedInBodies_wrapped : PlacedInBodies wrapped := by
  have hcalls : (treeOf? wrapped).map (fun tree => (tree.exceeds 5, tree.callsTo 5)) =
      some (false, [([0, 0], ⟨⟨1, 0⟩, ⟨2, 6⟩⟩), ([0, 0, 1], ⟨⟨1, 6⟩, ⟨2, 5⟩⟩)]) := by decide +kernel
  have hexists : ∃ tree, treeOf? wrapped = some tree ∧
      tree.WellPlaced ((splitLines (textOf wrapped)).map lineBody) :=
    Node.exists_wellPlaced hcalls (by decide +kernel) (by decide +kernel)
  obtain ⟨tree, hread, hplaced⟩ := hexists
  intro tree' hread'
  cases hread.symm.trans hread'
  exact hplaced

/-- The source with carriage returns in front of its line feeds is built to the module of the source in this
style. It ends with a line feed, so that the two trees are compared. -/
theorem buildModule_restyled_wrapped :
    ('\r' ∉ wrapped.toList ∧ endsWithPair (LineStyle.pair.restyle (textOf wrapped)) = true ∧
      treeOf? (LineStyle.pair.restyled wrapped) = treeOf? wrapped ∧ PlacedInBodies wrapped ∧
      sampleConfig.Total ∧ '\x00' ∉ wrapped.toList) ∧
    ∃ m m', ((fresh sampleConfig []).buildModule "a.py" wrapped).2 = .ok m ∧
      ((fresh sampleConfig []).buildModule "a.py" (LineStyle.pair.restyled wrapped)).2 = .ok m' ∧
      m.RestyledTo .pair m' := by
  have hreturn : '\r' ∉ wrapped.toList := by decide +kernel
  have hnull : '\x00' ∉ wrapped.toList := by decide +kernel
  have hend : endsWithPair (LineStyle.pair.restyle (textOf wrapped)) = true := by decide +kernel
  have hread : treeOf? (LineStyle.pair.restyled wrapped) = treeOf? wrapped := by decide +kernel
  obtain ⟨hrestyles, hexists⟩ := buildModule_restyled (fresh sampleConfig []) "a.py" .pair hreturn
    (fun _ => hread) placedInBodies_wrapped
  obtain ⟨m, hm⟩ := hexists sampleConfig_total hnull
  obtain ⟨m', hm', hrestyled⟩ := hrestyles.exists_of_ok hm
  exact ⟨⟨hreturn, hend, hread, placedInBodies_wrapped, sampleConfig_total, hnull⟩, m, m', hm, hm',
    hrestyled⟩

-- A line that is continued at the end of a text is read only if the terminator is a pair.
example : treeOf? "x = 1 \\\n" = none ∧ (treeOf? (LineStyle.pair.restyled "x = 1 \\\n")).isSome := by
  decide +kernel

end Compilation

end Localize
