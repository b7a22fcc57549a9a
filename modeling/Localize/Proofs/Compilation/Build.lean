/-
  One build, as what it comes to and what it writes. `bodyOf` is the module of a source without its
  records, and `entriesOf` lists what its scan writes; neither knows the window. `buildText_open`
  says that every open window leads to that module and takes those entries, `build_run` says the
  same of a build within a compilation, and `buildModule_of_fresh` of a build whose window is fresh.
-/
import Localize.Compilation
import Localize.Proofs.Diagnostic.Windows
import Localize.Proofs.Fold.Yield

namespace Localize

open Syntax

/-! ## Sources and their trees -/

/-- The text of a source without its byte order mark. -/
def textOf (source : String) : List Char := (splitMark source.toList).2

/-- The byte order mark of a source, if it has one. -/
def markOf (source : String) : List Char := (splitMark source.toList).1

/-- A text with its lines. -/
def indexOf (text : List Char) : LineIndex := ⟨text, splitLines text, flatten_splitLines text⟩

/-- The tree of a source, if it can be read. -/
def treeOf? (source : String) : Option Node :=
  if (textOf source).contains '\x00' then none else (parseModule (textOf source)).toOption

/-- What the scan of a tree comes to. -/
def scanOf (config : Config) (text : List Char) (tree : Node) : Yield :=
  Yield.of config (stops config.functionName (indexOf text) Guard.traversal.levels tree)

/-- The entries that a build writes to its window. -/
def entriesOf (config : Config) (source : String) : List Entry :=
  match treeOf? source with
  | none => []
  | some tree => (scanOf config (textOf source) tree).entries

/-! ## The scan of a module -/

/-- A scan from its beginning, with a window to write to. -/
def Scan.start (window : Window) : Scan := { guard := Guard.traversal, journal := { window } }

theorem Yield.substitutions_start (y : Yield) (w : Window) (events : List Event) :
    (y.finish (Scan.start w) events).substitutions.reverse = y.substitutions := by
  simp [Yield.finish, Scan.start]

theorem Yield.skipped_start (y : Yield) (w : Window) (events : List Event) :
    (y.finish (Scan.start w) events).skipped.reverse = y.skipped := by
  simp [Yield.finish, Scan.start]

/-- The module of what a scan comes to. -/
def Yield.body (y : Yield) (id source : String) (mark text : List Char) (index : LineIndex) :
    Except BuildFault Module :=
  match y.ending with
  | .error f => .error (.scan f)
  | .ok () => moduleOf id source mark text index (y.finish (Scan.start { module := id }) [])

/-- The module of a scan that has come to this, put together from its parts. -/
theorem Yield.moduleOf_start (y : Yield) (id source : String) (mark text : List Char) (index : LineIndex) :
    moduleOf id source mark text index (y.finish (Scan.start { module := id }) []) = (do
      let buildErrors ←
        (nestingErrors id index Guard.traversal.limit y.skipped).mapError BuildFault.position
      let rendered ← (Substitution.render text y.substitutions).mapError BuildFault.render
      return {
        id := id
        source := source
        output := String.ofList (mark ++ rendered)
        dependencies := y.substitutions
        buildErrors := buildErrors }) := by
  have hlimit : (y.finish (Scan.start { module := id }) []).guard.limit = Guard.traversal.limit := rfl
  unfold moduleOf
  rw [hlimit, y.substitutions_start, y.skipped_start]

/-- What a finished module takes from its scan. -/
theorem Yield.body_ok {y : Yield} {id source : String} {mark text : List Char} {index : LineIndex}
    {m : Module} (h : y.body id source mark text index = .ok m) :
    y.ending = .ok () ∧ m.dependencies = y.substitutions ∧
      nestingErrors id index Guard.traversal.limit y.skipped = .ok m.buildErrors := by
  unfold Yield.body at h
  rcases hending : y.ending with f | u
  · rw [hending] at h
    cases h
  · rw [hending] at h
    dsimp only at h
    rw [y.moduleOf_start] at h
    rcases hnesting : nestingErrors id index Guard.traversal.limit y.skipped with e | errors
    · rw [hnesting] at h
      cases h
    · rcases hrender : Substitution.render text y.substitutions with f | rendered
      · rw [hnesting, hrender] at h
        cases h
      · rw [hnesting, hrender] at h
        cases h
        exact ⟨rfl, rfl, rfl⟩

/-- The scan of a tree by any guard comes to what its stops come to. -/
theorem ofTree_run_guard (config : Config) (index : LineIndex) (g : Guard) {w : Window}
    (h : w.isSealed = false) (tree : Node) :
    ∃ events, Scan.ofTree config index g w tree =
      ((Yield.of config (stops config.functionName index g.levels tree)).ending,
        (Yield.of config (stops config.functionName index g.levels tree)).finish
          { guard := g, journal := { window := w } } events) := by
  obtain ⟨events, hrun⟩ := Scan.performAll_run config
    (stops config.functionName index g.levels tree) { guard := g, journal := { window := w } } h
  refine ⟨events, ?_⟩
  unfold Scan.ofTree
  exact (Scan.visit_eq_performAll config index tree _ _ rfl).trans hrun

theorem ofTree_run (config : Config) (index : LineIndex) {w : Window} (h : w.isSealed = false)
    (tree : Node) :
    ∃ events, Scan.ofTree config index Guard.traversal w tree =
      ((Yield.of config (stops config.functionName index Guard.traversal.levels tree)).ending,
        (Yield.of config (stops config.functionName index Guard.traversal.levels tree)).finish
          (Scan.start w) events) :=
  ofTree_run_guard config index Guard.traversal h tree

/-- A tree that is built with an open window gives the module of what its scan comes to, and its
window takes the entries. -/
theorem buildTree_run (config : Config) (id source : String) (mark text : List Char)
    (index : LineIndex) {w : Window} (h : w.isSealed = false) (tree : Node) :
    let y := Yield.of config (stops config.functionName index Guard.traversal.levels tree)
    (buildTree config id source mark text index w tree).result = y.body id source mark text index ∧
      (buildTree config id source mark text index w tree).window = w.recordAll y.entries := by
  intro y
  obtain ⟨events, hscan⟩ := ofTree_run config index h tree
  have hmodule : moduleOf id source mark text index (y.finish (Scan.start w) events) =
      moduleOf id source mark text index (y.finish (Scan.start { module := id }) []) := rfl
  unfold buildTree Yield.body
  rw [hscan]
  dsimp only
  rcases y.ending with f | u
  · exact ⟨rfl, rfl⟩
  · dsimp only
    rw [hmodule]
    rcases moduleOf id source mark text index (y.finish (Scan.start { module := id }) []) with f | m
    · exact ⟨rfl, rfl⟩
    · exact ⟨rfl, rfl⟩

/-! ## The text of a module -/

/-- The module of a source without its records, as far as it is built when its window is new. -/
def bodyOf (config : Config) (files : List (String × Text.Bytes)) (id source : String) :
    Except BuildFault Module :=
  (buildText config id source (valueAt? id files) { module := id }).result

/-- A text that is built with an open window gives the same module as with a new one, and its window
takes the entries. -/
theorem buildText_open (config : Config) (files : List (String × Text.Bytes)) (id source : String)
    {w : Window} (h : w.isSealed = false) :
    (buildText config id source (valueAt? id files) w).result = bodyOf config files id source ∧
      (buildText config id source (valueAt? id files) w).window =
        w.recordAll (entriesOf config source) := by
  unfold bodyOf buildText entriesOf treeOf?
  rcases hsplit : splitMark source.toList with ⟨mark, text⟩
  have htext : textOf source = text := by unfold textOf; rw [hsplit]
  rw [htext]
  dsimp only
  split
  · exact ⟨rfl, rfl⟩
  · rcases hparse : parseModule text with refusal | tree
    · exact ⟨rfl, rfl⟩
    · have hrun := buildTree_run config id source mark text (indexOf text) h tree
      have hnew := buildTree_run config id source mark text (indexOf text)
        (w := { module := id }) rfl tree
      exact ⟨hrun.1.trans hnew.1.symm, hrun.2⟩

theorem bodyOf_of_tree (config : Config) (files : List (String × Text.Bytes)) (id : String)
    {source : String} {tree : Node} (h : treeOf? source = some tree) :
    bodyOf config files id source =
      (scanOf config (textOf source) tree).body id source (markOf source) (textOf source)
        (indexOf (textOf source)) := by
  unfold bodyOf buildText
  unfold treeOf? textOf at h
  unfold scanOf textOf markOf
  rcases hsplit : splitMark source.toList with ⟨mark, text⟩
  rw [hsplit] at h
  dsimp only at h ⊢
  split at h
  · cases h
  · rename_i hnull
    rw [if_neg hnull]
    rcases hparse : parseModule text with refusal | parsed
    · rw [hparse] at h
      cases h
    · rw [hparse] at h
      cases h
      exact (buildTree_run config id source mark text (indexOf text)
        (w := { module := id }) rfl tree).1

/-! ## Records -/

/-- The record of a module for a severity. -/
def Module.record? (m : Module) : Severity → Option Record
  | .warning => m.warnings
  | .error => m.errors

/-- The misses in a module's record. -/
def Module.misses (m : Module) (s : Severity) : List Miss :=
  ((m.record? s).map Record.misses).getD []

/-- A module with the records of a window. -/
def Module.withRecords (m : Module) (w : Window) : Module :=
  { m with warnings := w.warnings, errors := w.errors }

theorem Module.record?_withRecords (m : Module) (w : Window) (s : Severity) :
    (m.withRecords w).record? s = w.get? s := by
  cases s <;> rfl

theorem Module.misses_withRecords (m : Module) (w : Window) (s : Severity) :
    (m.withRecords w).misses s = w.misses s := by
  unfold Module.misses Window.misses
  rw [Module.record?_withRecords]

/-! ## A build within a compilation -/

namespace Compilation

/-- The window that a build leaves, for the one it begins with. -/
def written (config : Config) (source : String) (w : Window) : Window :=
  w.recordAll (entriesOf config source)

/-- A build whose window is open: it fails and leaves the window open, or returns the module with
the records of the window, which is sealed. -/
theorem build_run (c : Compilation) (id source : String) {b : Aggregator} {n : Nat}
    (hopen : c.aggregator.openWindow id = (b, n)) (hn : n < b.windows.length)
    (hw : (b.window n).isSealed = false) :
    ∃ events, c.build id source =
      match bodyOf c.config c.files id source with
      | .error f =>
        ({ c with aggregator := b.put n (written c.config source (b.window n)), events }, .error f)
      | .ok m =>
        ({ c with aggregator := b.put n (written c.config source (b.window n)).close, events },
          .ok (m.withRecords (written c.config source (b.window n)))) := by
  obtain ⟨hresult, hwindow⟩ := buildText_open c.config c.files id source hw
  refine ⟨(buildText c.config id source (valueAt? id c.files) (b.window n)).events ++ c.events, ?_⟩
  have hclose : ∀ w : Window, (b.put n w).close n = b.put n w.close := by
    intro w
    unfold Aggregator.close
    rw [Aggregator.window_put hn, if_pos rfl, Aggregator.put_put]
  unfold build
  rw [hopen]
  dsimp only
  rw [hresult, hwindow]
  rcases bodyOf c.config c.files id source with f | m
  · rfl
  · dsimp only
    rw [hclose]
    rfl

/-- Opening the windows of jobs goes by their names. -/
theorem foldl_openWindow_fst (a : Aggregator) (jobs : List (String × String)) :
    jobs.foldl (fun a (id, _) => (a.openWindow id).1) a =
      (jobs.map Prod.fst).foldl (fun a id => (a.openWindow id).1) a := by
  rw [List.foldl_map]

/-- The table of modules when what a call returns is stored. -/
def stored (table : List (String × Module)) : Except BuildFault (List Module) → List (String × Module)
  | .ok ms => ms.foldl (fun table m => setEntry m.id m table) table
  | .error _ => table

theorem foldl_store (c : Compilation) (ms : List Module) :
    ms.foldl store c = { c with modules := stored c.modules (.ok ms) } := by
  unfold stored
  induction ms generalizing c with
  | nil => rfl
  | cons m ms ih => exact ih (c.store m)

/-- A compilation in which nothing was built yet. -/
def fresh (config : Config) (files : List (String × Text.Bytes)) : Compilation := { config, files }

/-- What a build returns has the records of the window that it begins with and of its own scan. -/
theorem buildModule_of_open {c : Compilation} {id : String} {b : Aggregator} {n : Nat}
    (hopen : (c.aggregator.openWindow id).1.openWindow id = (b, n)) (hn : n < b.windows.length)
    (hw : (b.window n).isSealed = false) (source : String) :
    (c.buildModule id source).2 =
      (bodyOf c.config c.files id source).map
        (·.withRecords (written c.config source (b.window n))) := by
  obtain ⟨events, hbuild⟩ :=
    build_run { c with aggregator := (c.aggregator.openWindow id).1 } id source hopen hn hw
  unfold buildModule
  dsimp only
  rw [hbuild]
  dsimp only
  rcases bodyOf c.config c.files id source with f | m
  · rfl
  · rfl

/-- A build whose window is fresh has the entries of its own scan only. -/
theorem buildModule_of_fresh {c : Compilation} {id : String} (h : c.aggregator.Fresh id)
    (source : String) :
    (c.buildModule id source).2 =
      (bodyOf c.config c.files id source).map
        (·.withRecords (written c.config source { module := id })) := by
  obtain ⟨hopen, hempty⟩ := Aggregator.openWindow_of_fresh h
  rcases hwindow : c.aggregator.openWindow id with ⟨b, n⟩
  rw [hwindow] at hempty
  have hunsealed : (b.window n).isSealed = false := by rw [hempty]
  have hrun := buildModule_of_open (hopen.trans hwindow) (Aggregator.lt_length_of_open hunsealed)
    hunsealed source
  rw [hempty] at hrun
  exact hrun

theorem buildModule_fresh (config : Config) (files : List (String × Text.Bytes))
    (id source : String) :
    ((fresh config files).buildModule id source).2 =
      (bodyOf config files id source).map
        (·.withRecords (written config source { module := id })) :=
  buildModule_of_fresh (Aggregator.fresh_empty id) source

end Compilation

end Localize
