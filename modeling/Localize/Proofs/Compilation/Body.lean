/-
  The body of a source: its module before there are records. A source with a null character has none
  (`bodyOf_of_null`), and one that cannot be read for another reason has a body with one build error
  (`bodyOf_of_unread`). Every body has the name and the source that were given and build errors only
  (`Module.IsBody.of_bodyOf`), of which there are two kinds (`eq_of_mem_buildErrors`), each of its
  substitutions is the literal of what a key is resolved to (`resolved_of_mem_dependencies`), and without
  substitutions its output is the source (`output_of_unfolded`).
-/
import Localize.Proofs.Compilation.Output

namespace Localize

open Syntax

/-! ## Sources that are not read -/

theorem contains_textOf (source : String) :
    (textOf source).contains '\x00' = true ↔ '\x00' ∈ source.toList := by
  have hmark : '\x00' ∉ markOf source := fun h => absurd (eq_of_mem_markOf h) (by decide)
  rw [← markOf_append_textOf source, List.contains_iff_mem, List.mem_append]
  exact ⟨.inr, fun h => h.resolve_left hmark⟩

theorem treeOf?_of_null {source : String} (h : '\x00' ∈ source.toList) : treeOf? source = none := by
  unfold treeOf?
  rw [if_pos ((contains_textOf source).mpr h)]

section Unread

variable (config : Config) (files : List (String × Text.Bytes)) (id : String) {source : String}

theorem bodyOf_of_null (h : '\x00' ∈ source.toList) :
    bodyOf config files id source = .error .nullCharacter := by
  have hnull : (splitMark source.toList).2.contains '\x00' = true := (contains_textOf source).mpr h
  unfold bodyOf buildText
  rcases hsplit : splitMark source.toList with ⟨mark, text⟩
  rw [hsplit] at hnull
  dsimp only at hnull ⊢
  rw [if_pos hnull]

/-- A source that cannot be read is its own output, and the reason is its only build error. -/
theorem bodyOf_of_unread (hnull : '\x00' ∉ source.toList) (hread : treeOf? source = none) :
    ∃ reason location, bodyOf config files id source =
      .ok { id, source, output := source, buildErrors := [.parse id reason location] } := by
  have htext : ¬ (splitMark source.toList).2.contains '\x00' = true :=
    mt (contains_textOf source).mp hnull
  unfold treeOf? textOf at hread
  rw [if_neg htext] at hread
  unfold bodyOf buildText
  rcases hsplit : splitMark source.toList with ⟨mark, text⟩
  rw [hsplit] at hread htext
  dsimp only at hread htext ⊢
  rw [if_neg htext]
  rcases hparse : parseModule text with refusal | tree
  · exact ⟨refusal.fault.cause.message, faultLocation (indexOf text) (valueAt? id files) refusal, rfl⟩
  · rw [hparse] at hread
    cases hread

end Unread

/-! ## Every body -/

/-- The module of a name and a source as a build leaves it before there are records: what is reported with
it is an error. -/
structure Module.IsBody (m : Module) (id source : String) : Prop where
  id : m.id = id
  source : m.source = source
  unrecorded : m.records = []
  severe : ∀ e ∈ m.buildErrors, e.diagnostic.severity = .error

/-- Of calls beyond the limit one error tells, at the first of them. -/
theorem eq_of_nestingErrors {id : String} {index : LineIndex} {limit : Int} {skipped : List Span}
    {errors : List BuildError} (h : nestingErrors id index limit skipped = .ok errors) :
    errors = [] ∨ ∃ location, errors = [.nesting id limit skipped.length location] := by
  unfold nestingErrors at h
  rcases skipped with _ | ⟨first, rest⟩
  · cases h
    exact .inl rfl
  · dsimp only at h
    rcases hlocation : index.locationOfSpan first with f | location
    · rw [hlocation] at h
      cases h
    · rw [hlocation] at h
      cases h
      exact .inr ⟨location, rfl⟩

section Body

variable {config : Config} {files : List (String × Text.Bytes)} {id source : String} {m : Module}

/-- What a finished module has of its source and of its substitutions. -/
theorem body_of_moduleOf {mark text : List Char} {index : LineIndex} {scan : Scan}
    (h : moduleOf id source mark text index scan = .ok m) :
    m.IsBody id source ∧ m.dependencies = scan.substitutions.reverse ∧
      (m.dependencies = [] → m.output = String.ofList (mark ++ text)) := by
  unfold moduleOf at h
  dsimp only at h
  rcases hnesting : nestingErrors id index scan.guard.limit scan.skipped.reverse with e | errors
  · rw [hnesting] at h
    cases h
  · rcases hrender : Substitution.render text scan.substitutions.reverse with f | rendered
    · rw [hnesting, hrender] at h
      cases h
    · rw [hnesting, hrender] at h
      cases h
      refine ⟨⟨rfl, rfl, rfl, fun e he => ?_⟩, rfl, fun hnone => ?_⟩
      · obtain rfl | ⟨location, rfl⟩ := eq_of_nestingErrors hnesting
        · cases he
        · rw [List.mem_singleton.mp he]
          rfl
      · dsimp only at hnone
        rw [hnone] at hrender
        cases hrender
        rfl

/-- The body of a source that is read comes from a scan that came to its end. -/
theorem moduleOf_of_bodyOf {tree : Node} (hread : treeOf? source = some tree)
    (h : bodyOf config files id source = .ok m) :
    (scanOf config (textOf source) tree).ending = .ok () ∧
      moduleOf id source (markOf source) (textOf source) (indexOf (textOf source))
        ((scanOf config (textOf source) tree).finish (Scan.start { module := id }) []) = .ok m := by
  rw [bodyOf_of_tree config files id hread] at h
  unfold Yield.body at h
  rcases hending : (scanOf config (textOf source) tree).ending with f | u
  · rw [hending] at h
    cases h
  · rw [hending] at h
    exact ⟨rfl, h⟩

/-- A source that has a body has no null character. -/
theorem not_null_of_bodyOf (h : bodyOf config files id source = .ok m) :
    '\x00' ∉ source.toList := by
  intro hnull
  rw [bodyOf_of_null config files id hnull] at h
  cases h

theorem Module.IsBody.of_bodyOf (h : bodyOf config files id source = .ok m) : m.IsBody id source := by
  rcases hread : treeOf? source with _ | tree
  · obtain ⟨reason, location, hbody⟩ :=
      bodyOf_of_unread config files id (not_null_of_bodyOf h) hread
    rw [hbody] at h
    cases h
    refine ⟨rfl, rfl, rfl, fun e he => ?_⟩
    rw [List.mem_singleton.mp he]
    rfl
  · exact (body_of_moduleOf (moduleOf_of_bodyOf hread h).2).1

/-- What is reported with a module: that its source is not read, or that calls in it lie too deep. -/
theorem eq_of_mem_buildErrors (h : bodyOf config files id source = .ok m) {e : BuildError}
    (he : e ∈ m.buildErrors) :
    (∃ reason location, treeOf? source = none ∧ e = .parse id reason location) ∨
      ∃ limit count location, e = .nesting id limit count location := by
  rcases hread : treeOf? source with _ | tree
  · obtain ⟨reason, location, hbody⟩ :=
      bodyOf_of_unread config files id (not_null_of_bodyOf h) hread
    rw [hbody] at h
    cases h
    exact .inl ⟨reason, location, rfl, List.mem_singleton.mp he⟩
  · rw [bodyOf_of_tree config files id hread] at h
    obtain ⟨-, -, hnesting⟩ := Yield.body_ok h
    obtain hnone | ⟨location, hone⟩ := eq_of_nestingErrors hnesting
    · rw [hnone] at he
      cases he
    · rw [hone] at he
      exact .inr ⟨_, _, location, List.mem_singleton.mp he⟩

/-- What stands in the place of a call is the literal of what its key is resolved to. -/
theorem resolved_of_mem_dependencies (h : bodyOf config files id source = .ok m) {d : Substitution}
    (hd : d ∈ m.dependencies) :
    ∃ s r, resolved config s.miss = .ok r ∧ d = Substitution.of r.value s r.outcome := by
  rcases hread : treeOf? source with _ | tree
  · obtain ⟨reason, location, hbody⟩ :=
      bodyOf_of_unread config files id (not_null_of_bodyOf h) hread
    rw [hbody] at h
    cases h
    cases hd
  · obtain ⟨hending, hmodule⟩ := moduleOf_of_bodyOf hread h
    obtain ⟨-, hdependencies, -⟩ := body_of_moduleOf hmodule
    obtain ⟨-, hfilled, -⟩ := Yield.of_feasible (feasible_of_ending hending)
    rw [hdependencies, Yield.substitutions_start, scanOf, hfilled] at hd
    obtain ⟨s, -, hfill⟩ := List.mem_filterMap.mp hd
    exact ⟨s, fill?_eq_some_iff.mp hfill⟩

/-- A source in which no call is folded is its own output. -/
theorem output_of_unfolded (h : bodyOf config files id source = .ok m) (hnone : m.dependencies = []) :
    m.output = source := by
  rcases hread : treeOf? source with _ | tree
  · obtain ⟨reason, location, hbody⟩ :=
      bodyOf_of_unread config files id (not_null_of_bodyOf h) hread
    rw [hbody] at h
    cases h
    rfl
  · obtain ⟨-, -, houtput⟩ := body_of_moduleOf (moduleOf_of_bodyOf hread h).2
    rw [houtput hnone, markOf_append_textOf, String.ofList_toList]

end Body

/-! ## Builds in any compilation -/

namespace Compilation

/-- Opening a window gives one that is open, whatever there was before. -/
theorem isOpen_openWindow (a : Aggregator) (id : String) :
    ((a.openWindow id).1.window (a.openWindow id).2).isSealed = false := by
  have hnew : ((a.renew id).1.window (a.renew id).2).isSealed = false := by
    rw [Aggregator.window_renew_new]
  unfold Aggregator.openWindow
  rcases a.current? id with _ | n
  · exact hnew
  · dsimp only
    by_cases hsealed : (a.window n).isSealed = true
    · rw [if_pos hsealed]
      exact hnew
    · rw [if_neg hsealed]
      simpa using hsealed

/-- A build within a compilation returns the body of its source, with the records of a window that
does not depend on the source and of the scan. -/
theorem buildModule_run (c : Compilation) (id : String) :
    ∃ w : Window, w.isSealed = false ∧ ∀ source, (c.buildModule id source).2 =
      (bodyOf c.config c.files id source).map (·.withRecords (written c.config source w)) := by
  rcases hopen : (c.aggregator.openWindow id).1.openWindow id with ⟨b, n⟩
  have hw := isOpen_openWindow (c.aggregator.openWindow id).1 id
  rw [hopen] at hw
  exact ⟨b.window n, hw, buildModule_of_open hopen (Aggregator.lt_length_of_open hw) hw⟩

theorem body_of_buildModule {c : Compilation} {id source : String} {m : Module}
    (h : (c.buildModule id source).2 = .ok m) :
    ∃ body w, bodyOf c.config c.files id source = .ok body ∧ m = body.withRecords w := by
  obtain ⟨w, -, hrun⟩ := buildModule_run c id
  rw [hrun source] at h
  rcases hbody : bodyOf c.config c.files id source with f | body
  · rw [hbody] at h
    cases h
  · rw [hbody] at h
    cases h
    exact ⟨body, _, rfl, rfl⟩

end Compilation

end Localize
