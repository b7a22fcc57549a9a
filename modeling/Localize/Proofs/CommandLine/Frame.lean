/-
  What a run changes. A run that comes to no build changes nothing, and if it ends, it ends with 2 or no
  directory is given to write to (`run_cases`). A run that builds reads all it needs before it writes, so
  its modules are those of the tree as it was, even where they are written over what was read. What it
  leaves (`Leaves`) differs from the tree as it was in the places of its modules and in the directories on
  the way there, and in nothing else (`run_frame`).
-/
import Localize.Proofs.CommandLine.Writing

namespace Localize.CommandLine

open Compilation (Built buildModule_fresh)

/-- The directory that a run writes to, if its arguments or its project file give one. -/
def outDir? (tree : Tree) (arguments : List String) : Option Path :=
  match Options.of arguments with
  | .error _ => none
  | .ok o =>
    match settingsOf tree o with
    | .error _ => none
    | .ok settings => settings.outDir

/-! ## Places that modules change -/

/-- The places of modules by their names. -/
def places (home : Trail) (outDir : Path) (ids : List String) : Set Trail :=
  { trail | ∃ id ∈ ids, trail = (target outDir id).resolve home }

/-- The places on the way to the directories of modules. -/
def ways (home : Trail) (outDir : Path) (ids : List String) : Set Trail :=
  { trail | ∃ id ∈ ids, trail ∈ (target outDir id).parent.way home }

section Grows

variable (tree : Tree) (outDir : Path)

/-- A module that is written changes its place and the way there only, even where it fails. -/
theorem writeModule_grows (encoding : Text.Encoding) (m : Module) :
    tree.Grows (writeModule tree outDir encoding m).1 {(target outDir m.id).resolve tree.home}
      ((target outDir m.id).parent.way tree.home) := by
  unfold writeModule
  dsimp only
  rw [← target]
  have hmakes := (tree.makeDirectories_grows (target outDir m.id).parent).mono
    (Set.empty_subset {(target outDir m.id).resolve tree.home}) subset_rfl
  rcases hmake : tree.makeDirectories (target outDir m.id).parent with ⟨made, f | u⟩
  · rw [hmake] at hmakes
    exact hmakes
  · rw [hmake] at hmakes
    dsimp only at hmakes ⊢
    rcases hwrite : made.write (target outDir m.id) (encoding.encode m.output.toList) with f | next
    · exact hmakes
    · have hwrites := Tree.write_grows hwrite
      rw [hmakes.home] at hwrites
      exact hmakes.trans (hwrites.mono subset_rfl (Set.empty_subset _))

/-- Modules that are written change their places and the ways there only. -/
theorem writeModules_grows (inputs : List Input) {ms : List Module} {ids : List String}
    (hids : ∀ m ∈ ms, m.id ∈ ids) :
    tree.Grows (writeModules tree outDir inputs ms).1 (places tree.home outDir ids)
      (ways tree.home outDir ids) := by
  induction ms generalizing tree with
  | nil => exact .refl _ _ _
  | cons m ms ih =>
    have hid : m.id ∈ ids := hids m List.mem_cons_self
    have hfirst := (writeModule_grows tree outDir (encodingOf inputs m.id) m).mono
      (Set.singleton_subset_iff.mpr ⟨m.id, hid, rfl⟩ : _ ⊆ places tree.home outDir ids)
      (fun trail htrail => ⟨m.id, hid, htrail⟩ : _ ⊆ ways tree.home outDir ids)
    rw [writeModules]
    rcases hwrite : writeModule tree outDir (encodingOf inputs m.id) m with ⟨next, f | event⟩
    · rw [hwrite] at hfirst
      exact hfirst
    · rw [hwrite] at hfirst
      have hrest := ih next fun m' hm' => hids m' (List.mem_cons_of_mem _ hm')
      rw [hfirst.home] at hrest
      exact hfirst.trans hrest

end Grows

/-! ## Runs -/

section Run

variable {host : Host} {tree : Tree} {arguments : List String} {o : Options} {style : Style} {jobs : Int}
  {p : Prepared} {outDir : Path} {ms : List Module}

theorem outDir?_of_builds (h : Builds tree arguments o style jobs p host) :
    outDir? tree arguments = p.outDir := by
  obtain ⟨settings, hsettings, houtDir⟩ := outDir_of_prepare h.prepared
  unfold outDir?
  rw [h.options]
  dsimp only
  rw [hsettings, houtDir]

/-- Where nothing can be built, a run changes nothing, and if it ends, then with 2. -/
theorem runOptions_of_error (formatter : Formatter) {f : PrepareFault}
    (h : (prepare tree o host).2 = .error f) :
    (runOptions tree o formatter host).tree = tree ∧
      ∀ code, (runOptions tree o formatter host).exit = .ok code → code = 2 := by
  rcases hprepare : prepare tree o host with ⟨events, prepared⟩
  rw [hprepare] at h
  unfold runOptions
  rw [hprepare]
  dsimp only at h ⊢
  rw [h]
  cases f with
  | settings f =>
    dsimp only
    split
    · exact ⟨rfl, nofun⟩
    · exact ⟨rfl, fun code hexit => (Except.ok.inj hexit).symm⟩
  | _ => exact ⟨rfl, fun code hexit => (Except.ok.inj hexit).symm⟩

/-- A run that comes to no build changes nothing, and if it ends, then with 2 or without a directory to
write to. -/
theorem run_cases (host : Host) (tree : Tree) (arguments : List String) :
    (∃ o style jobs p, Builds tree arguments o style jobs p host) ∨
      (run tree arguments host).tree = tree ∧
        ∀ code, (run tree arguments host).exit = .ok code →
          code = 2 ∨ outDir? tree arguments = none := by
  unfold run outDir?
  rcases hoptions : Options.of arguments with (_ | f) | o
  · exact .inr ⟨rfl, fun _ _ => .inr rfl⟩
  · exact .inr ⟨rfl, fun _ _ => .inr rfl⟩
  · dsimp only
    rcases hstyle : o.style with _ | style
    · exact .inr ⟨rfl, nofun⟩
    · rcases hprepared : (prepare tree o host).2 with f | p
      · obtain ⟨htree, hexit⟩ := runOptions_of_error { style } hprepared
        exact .inr ⟨htree, fun code hcode => .inl (hexit code hcode)⟩
      · rcases hjobs : o.jobs with _ | jobs
        · refine .inr ?_
          dsimp only
          unfold runOptions
          dsimp only
          rw [hprepared]
          dsimp only
          rw [hjobs]
          exact ⟨rfl, nofun⟩
        · exact .inl ⟨o, style, jobs, p, hoptions, hstyle, hjobs, hprepared⟩

/-- A run that builds ends only if its modules are built and written. -/
theorem built_of_exit (h : Builds tree arguments o style jobs p host) {code : Nat}
    (hexit : (run tree arguments host).exit = .ok code) :
    code ≠ 2 ∧ ∃ ms, ((p.start tree).buildModules p.sources jobs host.begun).2 = .ok ms ∧
      (p.writing tree ms).2.2 = .ok () ∧ (run tree arguments host).tree = (p.writing tree ms).1 := by
  obtain ⟨lines, hrun⟩ := run_of_builds h
  rw [hrun] at hexit ⊢
  dsimp only at hexit ⊢
  rw [tree_of_build]
  rcases hbuilt : ((p.start tree).buildModules p.sources jobs host.begun).2 with f | ms
  · cases (exit_of_error o { style } hbuilt).symm.trans hexit
  · obtain ⟨hfails, hends⟩ := exit_of_ok o { style } (nodup_prepare h.prepared) hbuilt
    rcases hwritten : (p.writing tree ms).2.2 with f | u
    · cases (hfails f hwritten).symm.trans hexit
    · cases (hends hwritten).1.symm.trans hexit
      refine ⟨?_, ms, rfl, hwritten, rfl⟩
      unfold exitCode
      split <;> decide

/-- What is left of an input: its module has the output of a build of its text alone, and the file in its
place has this output, in the encoding that the input was read in. -/
structure Written (tree after : Tree) (p : Prepared) (outDir : Path) (i : Input) (m : Module) :
    Prop where
  id : m.id = i.id
  output : ∃ alone, ((p.start tree).buildModule i.id i.text).2 = .ok alone ∧ m.output = alone.output
  file : after.read (target outDir i.id) = .ok (i.encoding.encode m.output.toList)

/-- What a run leaves that writes the modules it has collected: they are read from the tree as it was and
written in places of their own, and only these places and the directories on the way there are different. -/
structure Leaves (tree after : Tree) (p : Prepared) (modules : List (String × Path)) (ms : List Module)
    (outDir : Path) : Prop where
  reads : List.Forall₂ (Reads tree) modules p.inputs
  written : List.Forall₂ (Written tree after p outDir) p.inputs ms
  distinct : ((modules.map Prod.fst).map fun id => (target outDir id).resolve tree.home).Nodup
  grows : tree.Grows after (places tree.home outDir (modules.map Prod.fst))
    (ways tree.home outDir (modules.map Prod.fst))

/-- The output of a module does not depend on what is built beside it. -/
theorem output_of_built {c : Compilation} (hconfig : c.config = p.config)
    (hfiles : c.files = filesNamed tree p.inputs) {i : Input} {m : Module}
    (h : Built c (i.id, i.text) m) :
    ∃ alone, ((p.start tree).buildModule i.id i.text).2 = .ok alone ∧ m.output = alone.output := by
  obtain ⟨body, w, hbody, rfl⟩ := h.body
  rw [hconfig, hfiles] at hbody
  unfold Prepared.start
  rw [buildModule_fresh, hbody]
  exact ⟨_, rfl, rfl⟩

/-- A run whose modules are built and written leaves them in their places. -/
theorem leaves_of_builds (hsound : tree.Sound) (h : Builds tree arguments o style jobs p host)
    (hbuilt : ((p.start tree).buildModules p.sources jobs host.begun).2 = .ok ms)
    (hwritten : (writeModules tree outDir p.inputs ms).2.2 = .ok ()) :
    ∃ modules, collect tree o.sources = .ok modules ∧
      Leaves tree (writeModules tree outDir p.inputs ms).1 p modules ms outDir := by
  obtain ⟨modules, hcollect, hreads⟩ := exists_collect h.prepared
  obtain ⟨c, hconfig, hfiles, hmodules⟩ := exists_built h.prepared hbuilt
  have hids : p.inputs.map Input.id = modules.map Prod.fst := ids_of_reads hreads
  have hitems : List.Forall₂ (fun i m => Built c (i.id, i.text) m) p.inputs ms :=
    List.forall₂_map_left_iff.mp hmodules
  refine ⟨modules, hcollect, hreads, ?_, ?_, ?_⟩
  · refine (forall₂_mem hitems).imp fun i m hitem => ?_
    obtain ⟨hi, hm, hitem⟩ := hitem
    exact ⟨hitem.id, output_of_built hconfig hfiles hitem,
      read_of_build hsound h hbuilt (Prod.ext rfl (Prod.ext rfl hwritten)) hi hm hitem.id⟩
  · rw [← hids]
    exact h.nodup_places hsound outDir
  · refine writeModules_grows tree outDir p.inputs fun m hm => ?_
    rw [← hids, ← p.map_sources, ← Compilation.ids_of_built hmodules]
    exact List.mem_map_of_mem hm

/-- A run that ends changes nothing if it ends with 2 or if no directory is given to write to. Otherwise its
modules are those of the tree as it was, each is written in a place of its own, in the encoding that it was
read in, and nothing else is different but directories that are new on the way to these places. -/
theorem run_frame (hsound : tree.Sound) {code : Nat} (hexit : (run tree arguments host).exit = .ok code) :
    (code = 2 ∨ outDir? tree arguments = none → (run tree arguments host).tree = tree) ∧
    ∀ outDir, code ≠ 2 → outDir? tree arguments = some outDir →
      ∃ o style jobs p modules ms, Builds tree arguments o style jobs p host ∧
        collect tree o.sources = .ok modules ∧
        ((p.start tree).buildModules p.sources jobs host.begun).2 = .ok ms ∧
        Leaves tree (run tree arguments host).tree p modules ms outDir := by
  rcases run_cases host tree arguments with ⟨o, style, jobs, p, h⟩ | ⟨htree, hends⟩
  · obtain ⟨hcode, ms, hbuilt, hwritten, htree⟩ := built_of_exit h hexit
    rw [outDir?_of_builds h, htree]
    unfold Prepared.writing at hwritten ⊢
    constructor
    · rintro (htwo | hnone)
      · exact absurd htwo hcode
      · rw [hnone]
    · intro outDir _ houtDir
      rw [houtDir] at hwritten ⊢
      obtain ⟨modules, hcollect, hleaves⟩ := leaves_of_builds hsound h hbuilt hwritten
      exact ⟨o, style, jobs, p, modules, ms, h, hcollect, hbuilt, hleaves⟩
  · refine ⟨fun _ => htree, fun outDir hcode houtDir => ?_⟩
    rcases hends code hexit with htwo | hnone
    · exact absurd htwo hcode
    · cases hnone.symm.trans houtDir

end Run

/-- A listed tree with modules of one package, of which one has a call, and the map for it. -/
def packageTree : Tree :=
  .ofListing ["work"] [("src/a.py", .text "x = __('k')\n"), ("src/sub/b.py", .text "\ufeffy = 1\r\n"),
    ("fr.json", .text "\x7b\"k\": \"K\"\x7d")]

/-- The arguments of a run that writes over what it reads. -/
def packageArguments : List String := ["src", "-l", "fr.json", "-o", "src"]

/-- A run that writes its modules over the files that they were read from. -/
theorem run_frame_package :
    packageTree.Sound ∧ (run packageTree packageArguments).exit = .ok 0 ∧
      outDir? packageTree packageArguments = some (.ofText "src") ∧
      ∃ o style jobs p modules ms, Builds packageTree packageArguments o style jobs p ∧
        collect packageTree o.sources = .ok modules ∧
        ((p.start packageTree).buildModules p.sources jobs).2 = .ok ms ∧
        Leaves packageTree (run packageTree packageArguments).tree p modules ms (.ofText "src") := by
  have hsound : packageTree.Sound := Tree.sound_ofListing (by decide) _
  have hexit : (run packageTree packageArguments).exit = .ok 0 :=
    ok_of_toOption (by decide +kernel)
  have houtDir : outDir? packageTree packageArguments = some (.ofText "src") := by decide +kernel
  exact ⟨hsound, hexit, houtDir, (run_frame hsound hexit).2 _ (by decide) houtDir⟩

end Localize.CommandLine
