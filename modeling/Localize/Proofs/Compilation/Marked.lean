/-
  Sources behind a byte order mark. The mark is taken off before anything is read and put back in
  front of the output, so that a build of a marked source goes through the same steps as a build of
  the source itself: ranges, locations, build errors, records and events are the same, and of the
  module only the source and the output get the mark (`buildModule_marked`). This holds of a source
  that is folded, of one that cannot be read, and of a build that ends with a fault.
-/
import Localize.Proofs.Compilation.Settled

namespace Localize

open Syntax

/-- A source behind a byte order mark. -/
def marked (source : String) : String := String.ofList (byteOrderMark :: source.toList)

/-- A module whose source and output stand behind a byte order mark. -/
def Module.marked (m : Module) : Module :=
  { m with source := Localize.marked m.source, output := Localize.marked m.output }

/-- An attempt whose module, if there is one, stands behind a byte order mark. -/
def Attempt.marked (a : Attempt) : Attempt := { a with result := a.result.map Module.marked }

/-! ## The mark and the text -/

theorem splitMark_marked (source : String) :
    splitMark (marked source).toList = ([byteOrderMark], source.toList) := by
  unfold marked
  rw [String.toList_ofList, splitMark, if_pos rfl]

/-! ## Building a marked text -/

section Text

variable (config : Config) (id : String) {source : String}

/-- The module of a scan gets the mark in front of its source and its output. -/
theorem moduleOf_marked (text : List Char) (index : LineIndex) (scan : Scan) :
    moduleOf id (marked source) [byteOrderMark] text index scan =
      (moduleOf id source [] text index scan).map Module.marked := by
  unfold moduleOf
  dsimp only
  rcases nestingErrors id index scan.guard.limit scan.skipped.reverse with e | errors
  · rfl
  · rcases Substitution.render text scan.substitutions.reverse with f | rendered
    · rfl
    · have houtput : String.ofList ([byteOrderMark] ++ rendered) =
          marked (String.ofList ([] ++ rendered)) := by
        unfold marked
        rw [String.toList_ofList]
        rfl
      show Except.ok _ = Except.ok _
      rw [houtput]
      rfl

theorem buildTree_marked (text : List Char) (index : LineIndex) (w : Window) (tree : Node) :
    buildTree config id (marked source) [byteOrderMark] text index w tree =
      (buildTree config id source [] text index w tree).marked := by
  unfold buildTree
  rcases Scan.ofTree config index Guard.traversal w tree with ⟨f | u, scan⟩
  · rfl
  · dsimp only
    rw [moduleOf_marked]
    rcases moduleOf id source [] text index scan with f | m
    · rfl
    · rfl

/-- The text behind the mark is the source, and everything is counted in it. -/
theorem buildText_marked (h : source.toList.head? ≠ some byteOrderMark) (file : Option Text.Bytes)
    (w : Window) :
    buildText config id (marked source) file w = (buildText config id source file w).marked := by
  unfold buildText
  rw [splitMark_marked, splitMark_of_unmarked h]
  dsimp only
  split
  · rfl
  · rcases parseModule source.toList with refusal | tree
    · rfl
    · exact buildTree_marked config id source.toList _ w tree

end Text

/-! ## Builds in any compilation -/

namespace Compilation

/-- A marked source is built by the same steps: the windows and the events are those of the source
itself, and the result is its module behind a mark. -/
theorem build_marked (c : Compilation) (id : String) {source : String}
    (h : source.toList.head? ≠ some byteOrderMark) :
    c.build id (marked source) =
      ((c.build id source).1, (c.build id source).2.map Module.marked) := by
  unfold build
  rcases c.aggregator.openWindow id with ⟨b, n⟩
  dsimp only
  rw [buildText_marked c.config id h]
  rcases buildText c.config id source (valueAt? id c.files) (b.window n) with ⟨f | m, w, events⟩
  · rfl
  · rfl

/-- In every compilation a source behind a byte order mark is built like the source itself. The module
differs in the mark before its source and its output, a fault is the same one, and so are the windows
and the events that are left. If every key is answered and the calls have their places, only a null
character keeps both from being built. -/
theorem buildModule_marked (c : Compilation) (id : String) {source : String}
    (h : source.toList.head? ≠ some byteOrderMark) :
    (c.buildModule id (marked source)).2 = (c.buildModule id source).2.map Module.marked ∧
      (c.buildModule id (marked source)).1.aggregator = (c.buildModule id source).1.aggregator ∧
      (c.buildModule id (marked source)).1.events = (c.buildModule id source).1.events ∧
      (c.config.Total → Placed source → '\x00' ∉ source.toList →
        ∃ m, (c.buildModule id source).2 = .ok m ∧
          (c.buildModule id (marked source)).2 = .ok m.marked) := by
  have hsame : (c.buildModule id (marked source)).2 = (c.buildModule id source).2.map Module.marked ∧
      (c.buildModule id (marked source)).1.aggregator = (c.buildModule id source).1.aggregator ∧
      (c.buildModule id (marked source)).1.events = (c.buildModule id source).1.events := by
    unfold buildModule
    dsimp only
    rw [build_marked _ id h]
    rcases build { c with aggregator := (c.aggregator.openWindow id).1 } id source with ⟨c', f | m⟩
    · exact ⟨rfl, rfl, rfl⟩
    · exact ⟨rfl, rfl, rfl⟩
  refine ⟨hsame.1, hsame.2.1, hsame.2.2, fun htotal hplaced hnull => ?_⟩
  obtain ⟨body, hbody⟩ := (bodyOf_of_placed c.files id htotal hplaced).2 hnull
  obtain ⟨w, -, hrun⟩ := buildModule_run c id
  have hok : (c.buildModule id source).2 = .ok (body.withRecords (written c.config source w)) := by
    rw [hrun source, hbody]
    rfl
  exact ⟨_, hok, by rw [hsame.1, hok]; rfl⟩

/-- The sample without its mark. -/
def unmarked : String := String.ofList (textOf sample)

/-- The unmarked sample is built, and behind a mark it is built to the same module behind a mark. -/
theorem buildModule_marked_sample :
    (unmarked.toList.head? ≠ some byteOrderMark ∧ sampleConfig.Total ∧ Placed unmarked ∧
      '\x00' ∉ unmarked.toList) ∧
    ∃ m, ((fresh sampleConfig []).buildModule "a.py" unmarked).2 = .ok m ∧
      ((fresh sampleConfig []).buildModule "a.py" (marked unmarked)).2 = .ok m.marked := by
  have hhead : unmarked.toList.head? ≠ some byteOrderMark := by decide +kernel
  have hnull : '\x00' ∉ unmarked.toList := by decide +kernel
  have htext : textOf unmarked = textOf sample := by decide +kernel
  have hplaced : Placed unmarked := by
    obtain ⟨tree, hread, hplaced⟩ := treeOf?_sample
    intro tree' hread'
    unfold treeOf? at hread hread'
    rw [htext] at hread' ⊢
    cases hread.symm.trans hread'
    exact hplaced
  exact ⟨⟨hhead, sampleConfig_total, hplaced, hnull⟩,
    (buildModule_marked (fresh sampleConfig []) "a.py" hhead).2.2.2 sampleConfig_total hplaced hnull⟩

end Compilation

end Localize
