/-
  Modules that are written. Each is written in the encoding that its file was read in, in a place of its
  own, so what a run leaves can be told of one module at a time (`read_of_writeModules`). Where no call
  of a module is folded, its text is written with the ends of its lines unified. That is the file as it was
  just if it has no carriage return, and has the mark that its encoding writes (`written_iff`);
  otherwise what is called unchanged is not (`run_returns`).
-/
import Localize.Proofs.CommandLine.Exit
import Localize.Proofs.Compilation.Settled
import Localize.Proofs.File.Growth
import Localize.Proofs.Text.Encoding

namespace Localize.CommandLine

open Compilation (Built Call result_of_placed run_done)
open Text (unifyLineEnds utf8MarkBytes)

/-- Where the module with a name is written. -/
def target (outDir : Path) (id : String) : Path := outDir.append (.ofText id)

/-! ## Places -/

section Places

variable {tree : Tree} (outDir : Path)

/-- A module that can be read has a name made of names that directories hold. -/
theorem names_of_prepare (hsound : tree.Sound) {o : Options} {p : Prepared}
    (hnames : ∀ source ∈ o.sources, ∀ name ∈ source.names, Path.Named name)
    (h : (prepare tree o host).2 = .ok p) {i : Input} (hi : i ∈ p.inputs) :
    ∃ names, names ≠ [] ∧ (∀ name ∈ names, Path.Proper name) ∧ i.id = Path.joined names := by
  obtain ⟨modules, hcollect, hreads⟩ := exists_collect h
  obtain ⟨e, he, hread⟩ := exists_of_mem_forall₂ hreads.flip hi
  obtain ⟨source, hsource, added, hof, hadded⟩ := (collected_of_collect hcollect).origin e he
  obtain ⟨bytes, -, hbytes, -⟩ := readModule_eq_ok hread.text
  rw [hread.path] at hbytes
  rw [hread.id]
  exact names_of_modulesOf hsound (hnames source hsource) hof hadded hbytes

theorem resolve_target {names : List String} (hne : names ≠ [])
    (h : ∀ name ∈ names, Path.Proper name) (home : Trail) :
    (target outDir (Path.joined names)).resolve home = outDir.resolve home ++ names := by
  unfold target
  rw [Path.ofText_joined hne fun name hname => (h name hname).1, Path.resolve_append_proper h]

/-- Modules of different names are written in different places. -/
theorem nodup_places {ids : List String} (hids : ids.Nodup)
    (hnames : ∀ id ∈ ids,
      ∃ names, names ≠ [] ∧ (∀ name ∈ names, Path.Proper name) ∧ id = Path.joined names)
    (home : Trail) : (ids.map fun id => (target outDir id).resolve home).Nodup := by
  refine hids.map_on fun id hid id' hid' hplace => ?_
  obtain ⟨names, hne, hproper, rfl⟩ := hnames id hid
  obtain ⟨names', hne', hproper', rfl⟩ := hnames id' hid'
  rw [resolve_target outDir hne hproper, resolve_target outDir hne' hproper'] at hplace
  rw [List.append_cancel_left hplace]

end Places

/-! ## One module after the other -/

section Write

variable {outDir : Path}

/-- A module that is written is read again, and only its own place is taken. -/
theorem read_of_writeModule {tree after : Tree} {encoding : Text.Encoding} {m : Module} {event : Event}
    (h : writeModule tree outDir encoding m = (after, .ok event)) :
    Tree.Keeps tree after [(target outDir m.id).resolve tree.home] ∧
      after.read (target outDir m.id) = .ok (encoding.encode m.output.toList) := by
  unfold writeModule at h
  dsimp only at h
  rw [← target] at h
  have hmakes := Tree.makeDirectories_keeps tree (target outDir m.id).parent
  rcases hmake : tree.makeDirectories (target outDir m.id).parent with ⟨made, f | u⟩
  · rw [hmake] at h
    cases h
  · rw [hmake] at h hmakes
    dsimp only at h hmakes
    rcases hwrite : made.write (target outDir m.id) (encoding.encode m.output.toList) with f | next
    · rw [hwrite] at h
      cases h
    · rw [hwrite] at h
      cases h
      obtain ⟨hkeeps, hread⟩ := Tree.read_of_write hwrite
      rw [hmakes.home] at hkeeps
      exact ⟨hmakes.trans hkeeps, hread⟩

/-- Modules that are written in places of their own are all read again. -/
theorem read_of_writeModules {tree after : Tree} {inputs : List Input} {ms : List Module}
    {events : List Event}
    (hplaces : (ms.map fun m => (target outDir m.id).resolve tree.home).Nodup)
    (h : writeModules tree outDir inputs ms = (after, events, .ok ())) :
    Tree.Keeps tree after (ms.map fun m => (target outDir m.id).resolve tree.home) ∧
      ∀ m ∈ ms, after.read (target outDir m.id) =
        .ok ((encodingOf inputs m.id).encode m.output.toList) := by
  induction ms generalizing tree events with
  | nil =>
    cases h
    exact ⟨.refl _, nofun⟩
  | cons m ms ih =>
    rw [writeModules] at h
    rcases hfirst : writeModule tree outDir (encodingOf inputs m.id) m with ⟨next, f | event⟩
    · rw [hfirst] at h
      cases h
    · rw [hfirst] at h
      dsimp only at h
      rcases hrest : writeModules next outDir inputs ms with ⟨last, events', result⟩
      rw [hrest] at h
      cases h
      obtain ⟨hkeeps, hread⟩ := read_of_writeModule hfirst
      obtain ⟨hnew, hothers⟩ := List.nodup_cons.mp hplaces
      rw [← hkeeps.home] at hothers hnew
      obtain ⟨hkeeps', hreads⟩ := ih hothers hrest
      constructor
      · rw [hkeeps.home] at hkeeps'
        exact hkeeps.trans hkeeps'
      · intro m' hm'
        rcases List.mem_cons.mp hm' with rfl | hm'
        · exact hkeeps'.read hread hnew
        · exact hreads m' hm'

theorem encodingOf_of_mem {inputs : List Input} (hids : (inputs.map Input.id).Nodup) {i : Input}
    (hi : i ∈ inputs) : encodingOf inputs i.id = i.encoding := by
  have hfind : inputs.find? (·.id = i.id) = some i := by
    induction inputs with
    | nil => cases hi
    | cons j inputs ih =>
      obtain ⟨hnew, hothers⟩ := List.nodup_cons.mp hids
      rcases List.mem_cons.mp hi with rfl | hi
      · exact List.find?_cons_of_pos (decide_eq_true rfl)
      · have hne : j.id ≠ i.id := fun heq => hnew (heq ▸ List.mem_map_of_mem hi)
        rw [List.find?_cons_of_neg (by simpa using hne)]
        exact ih hothers hi
  unfold encodingOf
  rw [hfind]
  rfl

end Write

/-! ## Runs -/

section Run

variable {host : Host} {tree : Tree} {arguments : List String} {o : Options} {style : Style} {jobs : Int}
  {p : Prepared} {outDir : Path} {ms : List Module}

/-- What a run leaves: the tree as it was if the build fails, and else that with the modules. -/
theorem tree_of_build (formatter : Formatter) :
    (build tree o formatter jobs p host).tree =
      match ((p.start tree).buildModules p.sources jobs host.begun).2 with
      | .error _ => tree
      | .ok ms => (p.writing tree ms).1 := by
  obtain ⟨lines, hrun⟩ := build_eq host tree o formatter jobs p
  rw [hrun]
  rcases (p.start tree).buildModules p.sources jobs host.begun with ⟨c, f | ms⟩
  · rfl
  · dsimp only
    rcases p.writing tree ms with ⟨after, events, f | u⟩ <;> rfl

theorem nodup_sources (h : (prepare tree o host).2 = .ok p) (jobs : Int) :
    ((Call.many p.sources jobs host.begun).sources.map Prod.fst).Nodup :=
  p.map_sources ▸ nodup_prepare h

/-- The modules of a run whose build returns go with its sources. -/
theorem exists_built (h : (prepare tree o host).2 = .ok p)
    (hbuilt : ((p.start tree).buildModules p.sources jobs host.begun).2 = .ok ms) :
    ∃ c : Compilation, c.config = p.config ∧ c.files = filesNamed tree p.inputs ∧
      List.Forall₂ (Built c) p.sources ms := by
  have hfresh := Compilation.agreement_fresh p.config (filesNamed tree p.inputs)
  obtain ⟨hdone, -⟩ := run_done hfresh.tidy (nodup_sources h jobs)
  exact ⟨_, hdone.keeps.config, hdone.keeps.files, hdone.built ms hbuilt⟩

/-- Each input has a module, which is its text if no call is folded. -/
theorem exists_module (h : (prepare tree o host).2 = .ok p)
    (hbuilt : ((p.start tree).buildModules p.sources jobs host.begun).2 = .ok ms) {i : Input}
    (hi : i ∈ p.inputs) : ∃ m ∈ ms, m.id = i.id ∧ (m.dependencies = [] → m.output = i.text) := by
  obtain ⟨c, -, -, hmodules⟩ := exists_built h hbuilt
  have hjob : (i.id, i.text) ∈ p.sources := List.mem_map_of_mem hi
  obtain ⟨m, hm, hmodule⟩ := exists_of_mem_forall₂ hmodules hjob
  obtain ⟨body, w, hbody, rfl⟩ := hmodule.body
  have hunfolded : body.dependencies = [] → body.output = i.text := output_of_unfolded hbody
  exact ⟨_, hm, hmodule.id, hunfolded⟩

/-- The modules of a run are written in places of their own. -/
theorem Builds.nodup_places (h : Builds tree arguments o style jobs p host) (hsound : tree.Sound)
    (outDir : Path) :
    ((p.inputs.map Input.id).map fun id => (target outDir id).resolve tree.home).Nodup := by
  refine CommandLine.nodup_places outDir (nodup_prepare h.prepared) (fun id hid => ?_) tree.home
  obtain ⟨i, hi, rfl⟩ := List.mem_map.mp hid
  exact names_of_prepare hsound (named_of_options h.options) h.prepared hi

/-- What is written of a run whose build returns, if it can be written: each module in the encoding of its
input. -/
theorem read_of_build (hsound : tree.Sound) (h : Builds tree arguments o style jobs p host)
    (hbuilt : ((p.start tree).buildModules p.sources jobs host.begun).2 = .ok ms) {after : Tree}
    {events : List Event} (hwritten : writeModules tree outDir p.inputs ms = (after, events, .ok ()))
    {i : Input} (hi : i ∈ p.inputs) {m : Module} (hm : m ∈ ms) (hid : m.id = i.id) :
    after.read (target outDir i.id) = .ok (i.encoding.encode m.output.toList) := by
  obtain ⟨c, -, -, hmodules⟩ := exists_built h.prepared hbuilt
  have hids : ms.map Module.id = p.inputs.map Input.id :=
    (Compilation.ids_of_built hmodules).trans p.map_sources
  have hplaces : (ms.map fun m => (target outDir m.id).resolve tree.home).Nodup := by
    have hnodup := h.nodup_places hsound outDir
    rw [← hids, List.map_map] at hnodup
    exact hnodup
  have hread := (read_of_writeModules hplaces hwritten).2 m hm
  rw [hid, encodingOf_of_mem (nodup_prepare h.prepared) hi] at hread
  exact hread

/-- With sources that answer every key, only a null character keeps a build from returning. -/
theorem result_of_total (h : (prepare tree o host).2 = .ok p) (htotal : p.config.Total)
    (hplaced : ∀ i ∈ p.inputs, Placed i.text) :
    ((∀ i ∈ p.inputs, '\x00' ∉ i.text.toList) →
      ∃ ms, ((p.start tree).buildModules p.sources jobs host.begun).2 = .ok ms) ∧
    ((∃ i ∈ p.inputs, '\x00' ∈ i.text.toList) →
      ((p.start tree).buildModules p.sources jobs host.begun).2 = .error .nullCharacter) := by
  have hcall : (Call.many p.sources jobs host.begun).Proper := by
    refine ⟨nodup_sources h jobs, fun job hjob => ?_⟩
    obtain ⟨i, hi, rfl⟩ := List.mem_map.mp hjob
    exact hplaced i hi
  have hfresh := Compilation.agreement_fresh p.config (filesNamed tree p.inputs)
  obtain ⟨hok, herror⟩ := result_of_placed hfresh.tidy htotal hcall
  constructor
  · intro hnull
    refine hok fun job hjob => ?_
    obtain ⟨i, hi, rfl⟩ := List.mem_map.mp hjob
    exact hnull i hi
  · rintro ⟨i, hi, hnull⟩
    exact herror ⟨(i.id, i.text), List.mem_map_of_mem hi, hnull⟩

/-- What is read of the file of an input and what is written for it, if no call of its module is folded: the
text of the file with the ends of its lines unified. -/
theorem read_of_unfolded (hsound : tree.Sound) (h : Builds tree arguments o style jobs p host)
    (hbuilt : ((p.start tree).buildModules p.sources jobs host.begun).2 = .ok ms) {after : Tree}
    {events : List Event} (hwritten : writeModules tree outDir p.inputs ms = (after, events, .ok ()))
    {i : Input} (hi : i ∈ p.inputs) :
    ∃ bytes cs m, tree.read i.path = .ok bytes ∧ i.encoding.decode bytes = .ok cs ∧ m ∈ ms ∧
      m.id = i.id ∧ (m.dependencies = [] →
        after.read (target outDir i.id) = .ok (i.encoding.encode (unifyLineEnds cs))) := by
  obtain ⟨modules, -, hreads⟩ := exists_collect h.prepared
  obtain ⟨e, -, hread⟩ := exists_of_mem_forall₂ hreads.flip hi
  obtain ⟨bytes, cs, hbytes, hdecode, htext⟩ := readModule_eq_ok hread.text
  obtain ⟨m, hm, hid, hunfolded⟩ := exists_module h.prepared hbuilt hi
  refine ⟨bytes, cs, m, hbytes, hdecode, hm, hid, fun hnone => ?_⟩
  rw [← htext, ← hunfolded hnone]
  exact read_of_build hsound h hbuilt hwritten hi hm hid

/-- A run with a directory to write to leaves everything as it was if its build fails, and breaks off if
a module cannot be written. Otherwise the text of each file in which no call is folded is written with the
ends of its lines unified, and these are the bytes of the file just if they have no carriage return, and
have the mark that the encoding writes. With sources that answer every key, only a null character keeps a
build from returning. -/
theorem written_iff (hsound : tree.Sound) (h : Builds tree arguments o style jobs p host)
    (houtDir : p.outDir = some outDir) :
    let built := ((p.start tree).buildModules p.sources jobs host.begun).2
    let r := run tree arguments host
    (p.config.Total → (∀ i ∈ p.inputs, Placed i.text) →
      ((∀ i ∈ p.inputs, '\x00' ∉ i.text.toList) → ∃ ms, built = .ok ms) ∧
      ((∃ i ∈ p.inputs, '\x00' ∈ i.text.toList) → built = .error .nullCharacter)) ∧
    (∀ f, built = .error f → r.exit = .error (.build f) ∧ r.tree = tree) ∧
    ∀ ms, built = .ok ms →
      (∀ f, (writeModules tree outDir p.inputs ms).2.2 = .error f → r.exit = .error (.file f)) ∧
      ((writeModules tree outDir p.inputs ms).2.2 = .ok () → (∃ code, r.exit = .ok code) ∧
        ∀ i ∈ p.inputs, ∃ bytes cs m, tree.read i.path = .ok bytes ∧
          i.encoding.decode bytes = .ok cs ∧ m ∈ ms ∧ m.id = i.id ∧
          (m.dependencies = [] →
            r.tree.read (target outDir i.id) = .ok (i.encoding.encode (unifyLineEnds cs)) ∧
            (i.encoding.encode (unifyLineEnds cs) = bytes ↔
              13 ∉ bytes ∧ (i.encoding = .utf8Mark → utf8MarkBytes <+: bytes)))) := by
  intro built r
  obtain ⟨lines, hrun⟩ := run_of_builds h
  have hexit : r.exit = (build tree o { style } jobs p host).exit := by
    show (run tree arguments host).exit = _
    rw [hrun]
  have htree : r.tree = (build tree o { style } jobs p host).tree := by
    show (run tree arguments host).tree = _
    rw [hrun]
  have hwriting : ∀ ms, p.writing tree ms = writeModules tree outDir p.inputs ms := by
    intro ms
    unfold Prepared.writing
    rw [houtDir]
  rw [tree_of_build] at htree
  rw [hexit]
  refine ⟨result_of_total h.prepared, fun f hf => ?_, fun ms hms => ?_⟩
  · change ((p.start tree).buildModules p.sources jobs host.begun).2 = .error f at hf
    rw [hf] at htree
    exact ⟨exit_of_error _ _ hf, htree⟩
  · change ((p.start tree).buildModules p.sources jobs host.begun).2 = .ok ms at hms
    rw [hms] at htree
    dsimp only at htree
    obtain ⟨hfails, hends⟩ := exit_of_ok o { style } (nodup_prepare h.prepared) hms
    rw [hwriting] at hfails hends htree
    refine ⟨hfails, fun hwritten => ⟨⟨_, (hends hwritten).1⟩, fun i hi => ?_⟩⟩
    obtain ⟨bytes, cs, m, hbytes, hdecode, hm, hid, hread⟩ :=
      read_of_unfolded hsound h hms (Prod.ext rfl (Prod.ext rfl hwritten)) hi
    refine ⟨bytes, cs, m, hbytes, hdecode, hm, hid, fun hnone => ⟨?_, ?_⟩⟩
    · rw [htree]
      exact hread hnone
    · exact Text.Encoding.encode_unified_iff hdecode

end Run

/-- A listed tree with a module that begins with a mark and one whose lines end in carriage returns. -/
def endsTree : Tree :=
  .ofListing ["work"] [("a.py", .text "\ufeffx = 1\n"), ("b.py", .text "x = 1\r\n")]

theorem sound_endsTree : endsTree.Sound :=
  Tree.sound_ofListing (by decide) _

/-- A source without calls. -/
theorem placed_of_callsTo {source : String}
    (h : (treeOf? source).map (fun tree => (tree.exceeds 8, tree.callsTo 8)) = some (false, [])) :
    Placed source :=
  placed_of_exists (Syntax.Node.exists_wellPlaced h nofun nofun)

/-- The options of a run that writes the module with the mark. -/
def endsOptions : Options := { sources := [.ofText "a.py"], outDir := some (.ofText "out") }

/-- The file with a mark is written as it was. -/
theorem written_iff_sample :
    ∃ p, endsTree.Sound ∧ Builds endsTree ["a.py", "-o", "out"] endsOptions .rust 1 p ∧
      p.outDir = some (.ofText "out") ∧ p.config.Total ∧ (∀ i ∈ p.inputs, Placed i.text) ∧
      ∃ i ∈ p.inputs, ∃ bytes, endsTree.read i.path = .ok bytes ∧
        (run endsTree ["a.py", "-o", "out"]).tree.read (target (.ofText "out") i.id) = .ok bytes := by
  have hoptions : (Options.of ["a.py", "-o", "out"]).toOption = some endsOptions := by
    decide +kernel
  have hcheck : (prepare endsTree endsOptions).2.toOption.map (fun p =>
      ((p.outDir, p.inputs), (p.config.primary.isNone, p.config.fallback.isNone),
        ((p.start endsTree).buildModules p.sources 1).2.toOption.map fun ms =>
          ((writeModules endsTree (.ofText "out") p.inputs ms).2.2.toOption,
            ms.all fun m => m.dependencies.isEmpty))) =
      some ((some (.ofText "out"), [⟨"a.py", .ofText "a.py", .utf8Mark, "x = 1\n"⟩]),
        (true, true), some (some (), true)) := by decide +kernel
  obtain ⟨p, hp, hcheck⟩ := Option.map_eq_some_iff.mp hcheck
  obtain ⟨hprepared, hresults⟩ := Prod.mk.inj hcheck
  obtain ⟨houtDir, hinputs⟩ := Prod.mk.inj hprepared
  obtain ⟨hsources, hbuilt⟩ := Prod.mk.inj hresults
  obtain ⟨hprimary, hfallback⟩ := Prod.mk.inj hsources
  obtain ⟨ms, hms, hwriting⟩ := Option.map_eq_some_iff.mp hbuilt
  obtain ⟨hwritten, hnone⟩ := Prod.mk.inj hwriting
  have hbuilds : Builds endsTree ["a.py", "-o", "out"] endsOptions .rust 1 p :=
    ⟨ok_of_toOption hoptions, rfl, rfl, ok_of_toOption hp⟩
  have htotal : p.config.Total := by
    intro key
    rw [Config.Answers, Option.isNone_iff_eq_none.mp hprimary, Option.isNone_iff_eq_none.mp hfallback]
    exact ⟨nofun, nofun⟩
  have hplaced : ∀ i ∈ p.inputs, Placed i.text := by
    intro i hi
    rw [hinputs, List.mem_singleton] at hi
    rw [hi]
    exact placed_of_callsTo (by decide +kernel)
  have hi : ⟨"a.py", .ofText "a.py", .utf8Mark, "x = 1\n"⟩ ∈ p.inputs := by
    rw [hinputs]
    exact List.mem_singleton_self _
  obtain ⟨hreturns, -, hwrites⟩ := written_iff sound_endsTree hbuilds houtDir
  obtain ⟨ms', hms'⟩ := (hreturns htotal hplaced).1 (by rw [hinputs]; decide)
  cases (ok_of_toOption hms).symm.trans hms'
  obtain ⟨bytes, cs, m, hbytes, -, hm, -, hunfolded⟩ :=
    ((hwrites ms hms').2 (ok_of_toOption hwritten)).2 _ hi
  obtain ⟨hread, hsame⟩ := hunfolded (List.isEmpty_iff.mp (List.all_eq_true.mp hnone m hm))
  have hmarked : endsTree.read (.ofText "a.py") = .ok (Text.encodeUtf8 "\ufeffx = 1\n".toList) :=
    ok_of_toOption (by decide +kernel)
  cases hmarked.symm.trans hbytes
  rw [hsame.mpr (by decide +kernel)] at hread
  exact ⟨p, sound_endsTree, hbuilds, houtDir, htotal, hplaced, _, hi, _, hbytes, hread⟩

/-- A file whose lines end in carriage returns is written without these, though no call of it is folded
and it is reported as unchanged. -/
theorem run_returns :
    (endsTree.read (.ofText "b.py")).toOption = some (Text.encodeUtf8 "x = 1\r\n".toList) ∧
    ((Compilation.fresh {} []).buildModule "b.py" "x = 1\n").2.toOption.map (·.dependencies) =
      some [] ∧
    (run endsTree ["b.py", "-o", "out", "-v"]).exit.toOption = some 0 ∧
    (run endsTree ["b.py", "-o", "out", "-v"]).reports =
      ["INFO i18nfold.compilation: Built 1 module(s): 0 warning record(s), 0 error record(s)",
        "INFO i18nfold.cli: Wrote out/b.py (unchanged)"] ∧
    ((run endsTree ["b.py", "-o", "out", "-v"]).tree.read (.ofText "out/b.py")).toOption =
      some (Text.encodeUtf8 "x = 1\n".toList) := by
  refine ⟨?_, ?_, ?_, ?_, ?_⟩
  · decide +kernel
  · decide +kernel
  · decide +kernel
  · decide +kernel
  · decide +kernel
end Localize.CommandLine
