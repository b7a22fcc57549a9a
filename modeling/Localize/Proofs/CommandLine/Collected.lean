/-
  Which modules are collected. A source that is no directory stands for itself, and a directory for what is
  named as a module below it (`mem_modulesOf`); a source that cannot be examined ends the collection
  (`collect_eq`). What sources stand for is kept by its names as long as paths of one name lead to one place
  (`addModules_of_alike`), and the first that leads elsewhere is refused (`addModules_of_unlike`), although
  each path is compared only with the last one of its name. So modules are collected just if no two of them
  clash, and then none is lost (`collect_settles`).
-/
import Localize.Proofs.CommandLine.Input
import Localize.Proofs.File.Below
import Mathlib.Data.List.TakeWhile

namespace Localize

/-- A path without a null character. -/
def Path.Clear (p : Path) : Prop := '\x00' ∉ p.text.toList

instance : DecidablePred Path.Clear := fun _ => inferInstanceAs (Decidable (¬_))

theorem Path.place_of_clear {p : Path} (h : p.Clear) (home : Trail) :
    p.place home = .ok (p.resolve home) :=
  if_neg fun hnull => h (List.contains_iff_mem.mp hnull)

theorem Path.place_of_not_clear {p : Path} (h : ¬p.Clear) (home : Trail) :
    p.place home = .error .nullCharacter :=
  if_pos (List.contains_iff_mem.mpr (not_not.mp h))

namespace CommandLine

/-! ## What sources stand for -/

/-- A module that a source stands for: the source itself if it is no directory, and otherwise a path
below it that ends in the name of a module, named from there. -/
inductive Stands (tree : Tree) (source : Path) : String × Path → Prop where
  | itself (h : tree.isDirectory source = .ok false) : Stands tree source (source.name, source)
  | below {names : List String} (h : tree.isDirectory source = .ok true)
      (hnode : tree.node? (source.resolve tree.home ++ names) ≠ none) (hname : isModuleName names = true) :
      Stands tree source (Path.joined names, source.append { names })

section Sources

variable {tree : Tree} {source : Path}

theorem mem_modulesBelow {trail names : Trail} :
    names ∈ modulesBelow tree trail ↔ tree.node? (trail ++ names) ≠ none ∧ isModuleName names = true := by
  unfold modulesBelow
  rw [(sortBy_perm _ _).mem_iff, List.mem_filter]
  constructor
  · rintro ⟨hbelow, hname⟩
    exact ⟨(Tree.mem_below (by rintro rfl; cases hname)).mp hbelow, hname⟩
  · rintro ⟨hnode, hname⟩
    exact ⟨(Tree.mem_below (by rintro rfl; cases hname)).mpr hnode, hname⟩

theorem modulesOf_of_file (h : tree.isDirectory source = .ok false) :
    modulesOf tree source = .ok [(source.name, source)] := by
  unfold modulesOf
  rw [h]
  rfl

theorem modulesOf_of_error {f : FileFault} (h : tree.isDirectory source = .error f) :
    modulesOf tree source = .error f := by
  unfold modulesOf
  rw [h]
  rfl

theorem modulesOf_of_directory (h : tree.isDirectory source = .ok true) :
    modulesOf tree source = .ok ((modulesBelow tree (source.resolve tree.home)).map fun names =>
      (Path.joined names, source.append { names })) := by
  unfold modulesOf
  rw [h]
  dsimp only [bind, Except.bind]
  rw [if_pos rfl, (Tree.locate_of_isDirectory h).1]
  rfl

/-- A source can be examined unless a name in it or all of it is too long. -/
theorem modulesOf_eq_error {f : FileFault} (h : modulesOf tree source = .error f) :
    f = .failed .nameTooLong source.text := by
  rcases hdirectory : tree.isDirectory source with f' | _ | _
  · rw [modulesOf_of_error hdirectory] at h
    cases h
    exact Tree.isDirectory_eq_error hdirectory
  · rw [modulesOf_of_file hdirectory] at h
    cases h
  · rw [modulesOf_of_directory hdirectory] at h
    cases h

theorem mem_modulesOf {added : List (String × Path)} (h : modulesOf tree source = .ok added)
    {e : String × Path} : e ∈ added ↔ Stands tree source e := by
  rcases hdirectory : tree.isDirectory source with f | _ | _
  · rw [modulesOf_of_error hdirectory] at h
    cases h
  · rw [modulesOf_of_file hdirectory] at h
    cases h
    rw [List.mem_singleton]
    constructor
    · rintro rfl
      exact .itself hdirectory
    · rintro (_ | ⟨htrue⟩)
      · rfl
      · cases hdirectory.symm.trans htrue
  · rw [modulesOf_of_directory hdirectory] at h
    cases h
    rw [List.mem_map]
    constructor
    · rintro ⟨names, hnames, rfl⟩
      obtain ⟨hnode, hname⟩ := mem_modulesBelow.mp hnames
      exact .below hdirectory hnode hname
    · rintro (hfalse | ⟨-, hnode, hname⟩)
      · cases hdirectory.symm.trans hfalse
      · exact ⟨_, mem_modulesBelow.mpr ⟨hnode, hname⟩, rfl⟩

/-- The sources up to the first one that cannot be examined. -/
def examined (tree : Tree) (sources : List Path) : List Path :=
  sources.takeWhile fun source => (modulesOf tree source).isOk

/-- Why the first source that cannot be examined cannot be. -/
def unexamined? (tree : Tree) : List Path → Option FileFault
  | [] => none
  | source :: rest =>
    match modulesOf tree source with
    | .error f => some f
    | .ok _ => unexamined? tree rest

/-- The modules that the sources stand for which are examined. -/
def inputsOf (tree : Tree) (sources : List Path) : List (String × Path) :=
  (examined tree sources).flatMap fun source => ((modulesOf tree source).toOption).getD []

variable {sources : List Path}

theorem examined_of_none (h : unexamined? tree sources = none) : examined tree sources = sources := by
  induction sources with
  | nil => rfl
  | cons source rest ih =>
    rw [unexamined?] at h
    rcases hof : modulesOf tree source with f | added
    · rw [hof] at h
      cases h
    · rw [hof] at h
      rw [examined, List.takeWhile_cons_of_pos (by rw [hof]; rfl)]
      exact congrArg _ (ih h)

theorem exists_unexamined {f : FileFault} (h : unexamined? tree sources = some f) :
    ∃ source rest, sources = examined tree sources ++ source :: rest ∧
      f = .failed .nameTooLong source.text := by
  induction sources with
  | nil => cases h
  | cons source rest ih =>
    rw [unexamined?] at h
    rcases hof : modulesOf tree source with f' | added
    · rw [hof] at h
      cases h
      rw [examined, List.takeWhile_cons_of_neg (by rw [hof]; exact Bool.false_ne_true)]
      exact ⟨source, rest, rfl, modulesOf_eq_error hof⟩
    · rw [hof] at h
      obtain ⟨source', rest', hsplit, hfault⟩ := ih h
      rw [examined, List.takeWhile_cons_of_pos (by rw [hof]; rfl)]
      exact ⟨source', rest', congrArg (source :: ·) hsplit, hfault⟩

theorem mem_inputsOf {e : String × Path} :
    e ∈ inputsOf tree sources ↔ ∃ source ∈ examined tree sources, Stands tree source e := by
  unfold inputsOf
  rw [List.mem_flatMap]
  refine exists_congr fun source => and_congr_right fun hsource => ?_
  have hok := List.mem_takeWhile_imp hsource
  rcases hof : modulesOf tree source with f | added
  · rw [hof] at hok
    cases hok
  · exact mem_modulesOf hof

/-- What is collected: the modules that sources stand for are added one after the other, up to a source that
cannot be examined. -/
theorem collect_eq (tree : Tree) (sources : List Path) :
    collect tree sources = (do
      let modules ← (inputsOf tree sources).foldlM (addModule tree.home) []
      match unexamined? tree sources with
      | some f => .error (.file f)
      | none => .ok modules) := by
  unfold collect
  generalize ([] : List (String × Path)) = modules
  induction sources generalizing modules with
  | nil => rfl
  | cons source rest ih =>
    rw [List.foldlM_cons, unexamined?, inputsOf, examined]
    rcases hof : modulesOf tree source with f | added
    · rw [List.takeWhile_cons_of_neg (by rw [hof]; exact Bool.false_ne_true)]
      rfl
    · rw [List.takeWhile_cons_of_pos (by rw [hof]; rfl), List.flatMap_cons, hof, List.foldlM_append]
      dsimp only [Except.mapError, Except.toOption, Option.getD, bind, Except.bind]
      rcases hadd : added.foldlM (addModule tree.home) modules with f | modules'
      · rfl
      · exact ih modules'

end Sources

/-! ## Paths of one name -/

section Alike

variable {home : Trail} {inputs modules : List (String × Path)} {e : String × Path} {previous : Path}

/-- Two paths that lead to one place. A path with a null character leads nowhere. -/
def Meets (home : Trail) (p q : Path) : Prop :=
  p.Clear ∧ q.Clear ∧ p.resolve home = q.resolve home

/-- Inputs of which those of one name lead to one place. -/
def Alike (home : Trail) (inputs : List (String × Path)) : Prop :=
  inputs.Pairwise fun a b => a.1 = b.1 → Meets home a.2 b.2

/-- The last path that inputs have under a name. -/
def latest? (inputs : List (String × Path)) (id : String) : Option Path := valueAt? id inputs.reverse

/-- An input that does not lead where the last one of its name leads, after inputs that are alike. -/
def FirstUnlike (home : Trail) (inputs : List (String × Path)) (previous : Path) (e : String × Path) :
    Prop :=
  ∃ before after, inputs = before ++ e :: after ∧ Alike home before ∧
    latest? before e.1 = some previous ∧ ¬Meets home previous e.2

/-- Modules that keep inputs: each of their names once, in the order in which they first come, with the last
path of the name, which leads where every path of the name does. -/
structure Keeps (home : Trail) (inputs modules : List (String × Path)) : Prop where
  ids : modules.map Prod.fst = (inputs.map Prod.fst).eraseDups
  latest : ∀ id, valueAt? id modules = latest? inputs id
  lead : ∀ e ∈ inputs, ∃ path, (e.1, path) ∈ inputs ∧ (e.1, path) ∈ modules ∧
    path.resolve home = e.2.resolve home

/-- Why a path is refused that does not lead where another one of its name leads. -/
def refusal (previous : Path) (e : String × Path) : InputFault :=
  if previous.Clear ∧ e.2.Clear then .clash e.1 previous.text e.2.text else .file .nullCharacter

theorem latest?_concat (inputs : List (String × Path)) (e : String × Path) (id : String) :
    latest? (inputs ++ [e]) id = if e.1 = id then some e.2 else latest? inputs id := by
  unfold latest?
  rw [List.reverse_concat, valueAt?]

theorem mem_of_latest? {id : String} (h : latest? inputs id = some previous) : (id, previous) ∈ inputs :=
  List.mem_reverse.mp (mem_of_valueAt? h)

theorem latest?_eq_none_iff {id : String} : latest? inputs id = none ↔ id ∉ inputs.map Prod.fst := by
  unfold latest?
  rw [valueAt?_eq_none_iff, List.map_reverse, List.mem_reverse]

theorem alike_concat :
    Alike home (inputs ++ [e]) ↔ Alike home inputs ∧ ∀ a ∈ inputs, a.1 = e.1 → Meets home a.2 e.2 := by
  unfold Alike
  rw [List.pairwise_append]
  refine and_congr_right fun _ => ?_
  simp only [List.pairwise_singleton, List.mem_singleton, forall_eq, true_and]

/-- The last path of a name leads where every path of the name does. -/
theorem Alike.latest (h : Alike home inputs) (he : e ∈ inputs) (hlatest : latest? inputs e.1 = some previous) :
    previous = e.2 ∨ Meets home e.2 previous := by
  induction inputs using List.reverseRecOn with
  | nil => cases he
  | append_singleton inputs last ih =>
    obtain ⟨hinputs, hlast⟩ := alike_concat.mp h
    rw [latest?_concat] at hlatest
    split at hlatest
    · rename_i hid
      cases hlatest
      rcases List.mem_append.mp he with he | he
      · exact .inr (hlast e he hid.symm)
      · exact .inl (congrArg Prod.snd (List.mem_singleton.mp he)).symm
    · rename_i hid
      rcases List.mem_append.mp he with he | he
      · exact ih hinputs he hlatest
      · exact absurd (congrArg Prod.fst (List.mem_singleton.mp he)).symm hid

theorem Alike.place (h : Alike home inputs) (he : e ∈ inputs) (hlatest : latest? inputs e.1 = some previous) :
    previous.resolve home = e.2.resolve home := by
  rcases h.latest he hlatest with rfl | ⟨-, -, hplace⟩
  · rfl
  · exact hplace.symm

/-- Where the last path of a name leads to the place of a new one, so do all of them. -/
theorem Alike.concat (h : Alike home inputs)
    (hmeets : ∀ previous, latest? inputs e.1 = some previous → Meets home previous e.2) :
    Alike home (inputs ++ [e]) := by
  refine alike_concat.mpr ⟨h, fun a ha hid => ?_⟩
  rcases hlatest : latest? inputs e.1 with _ | previous
  · exact absurd (hid ▸ List.mem_map_of_mem ha) (latest?_eq_none_iff.mp hlatest)
  · obtain ⟨hprevious, he, hplace⟩ := hmeets previous hlatest
    rcases h.latest ha (hid ▸ hlatest) with rfl | ⟨hclear, -, hplace'⟩
    · exact ⟨hprevious, he, hplace⟩
    · exact ⟨hclear, he, hplace'.trans hplace⟩

/-- Inputs are alike, or one of them is the first that is not. -/
theorem exists_unlike (h : ¬Alike home inputs) : ∃ previous e, FirstUnlike home inputs previous e := by
  induction inputs using List.reverseRecOn with
  | nil => exact absurd List.Pairwise.nil h
  | append_singleton inputs last ih =>
    by_cases hinputs : Alike home inputs
    · by_contra hnone
      refine h (hinputs.concat fun previous hlatest => ?_)
      by_contra hmeets
      exact hnone ⟨previous, last, inputs, [], rfl, hinputs, hlatest, hmeets⟩
    · obtain ⟨previous, e, before, after, rfl, hunlike⟩ := ih hinputs
      exact ⟨previous, e, before, after ++ [last], by rw [List.append_assoc]; rfl, hunlike⟩

/-! ## Adding modules -/

theorem addModule_new (h : valueAt? e.1 modules = none) :
    addModule home modules e = .ok (setEntry e.1 e.2 modules) := by
  unfold addModule
  dsimp only
  rw [h]

theorem addModule_of_meets (h : valueAt? e.1 modules = some previous) (hmeets : Meets home previous e.2) :
    addModule home modules e = .ok (setEntry e.1 e.2 modules) := by
  unfold addModule
  dsimp only
  rw [h]
  dsimp only
  rw [Path.place_of_clear hmeets.1, Path.place_of_clear hmeets.2.1]
  exact if_pos hmeets.2.2

theorem addModule_of_not_meets (h : valueAt? e.1 modules = some previous)
    (hmeets : ¬Meets home previous e.2) : addModule home modules e = .error (refusal previous e) := by
  unfold addModule refusal
  dsimp only
  rw [h]
  dsimp only
  by_cases hprevious : previous.Clear
  · rw [Path.place_of_clear hprevious]
    by_cases hpath : e.2.Clear
    · rw [Path.place_of_clear hpath, if_pos ⟨hprevious, hpath⟩]
      exact if_neg fun hplace => hmeets ⟨hprevious, hpath, hplace⟩
    · rw [Path.place_of_not_clear hpath, if_neg fun hboth => hpath hboth.2]
      rfl
  · rw [Path.place_of_not_clear hprevious, if_neg fun hboth => hprevious hboth.1]
    rfl

/-- Inputs that are alike are kept. -/
theorem addModules_of_alike (h : Alike home inputs) :
    ∃ modules, inputs.foldlM (addModule home) [] = .ok modules ∧
      modules.map Prod.fst = (inputs.map Prod.fst).eraseDups ∧
      ∀ id, valueAt? id modules = latest? inputs id := by
  induction inputs using List.reverseRecOn with
  | nil => exact ⟨[], rfl, rfl, fun _ => rfl⟩
  | append_singleton inputs e ih =>
    obtain ⟨hinputs, he⟩ := alike_concat.mp h
    obtain ⟨modules, hfold, hids, hlatest⟩ := ih hinputs
    have hadd : addModule home modules e = .ok (setEntry e.1 e.2 modules) := by
      rcases hprevious : valueAt? e.1 modules with _ | previous
      · exact addModule_new hprevious
      · have hmem := mem_of_latest? ((hlatest e.1).symm.trans hprevious)
        exact addModule_of_meets hprevious (he _ hmem rfl)
    refine ⟨setEntry e.1 e.2 modules, ?_, ?_, fun id => ?_⟩
    · rw [List.foldlM_append, hfold]
      dsimp only [bind, Except.bind]
      rw [List.foldlM_cons, hadd]
      rfl
    · rw [keys_setEntry, hids, List.map_append, List.eraseDups_append, List.map_singleton]
      split
      · rename_i hmem
        rw [List.mem_eraseDups] at hmem
        simp [List.removeAll, hmem]
      · rename_i hmem
        rw [List.mem_eraseDups] at hmem
        simp [List.removeAll, hmem, List.eraseDups_cons]
    · rw [valueAt?_setEntry, latest?_concat, hlatest]
      exact if_congr eq_comm rfl rfl

/-- The first input that does not lead where the last one of its name leads is refused. -/
theorem addModules_of_unlike (h : FirstUnlike home inputs previous e) :
    inputs.foldlM (addModule home) [] = .error (refusal previous e) := by
  obtain ⟨before, after, rfl, hbefore, hlatest, hmeets⟩ := h
  obtain ⟨modules, hfold, -, hvalues⟩ := addModules_of_alike hbefore
  rw [List.foldlM_append, hfold]
  dsimp only [bind, Except.bind]
  rw [List.foldlM_cons, addModule_of_not_meets ((hvalues e.1).trans hlatest) hmeets]
  rfl

theorem keeps_of_alike (h : Alike home inputs) :
    ∃ modules, inputs.foldlM (addModule home) [] = .ok modules ∧ Keeps home inputs modules := by
  obtain ⟨modules, hfold, hids, hlatest⟩ := addModules_of_alike h
  refine ⟨modules, hfold, hids, hlatest, fun e he => ?_⟩
  rcases hpath : latest? inputs e.1 with _ | path
  · exact absurd (List.mem_map_of_mem he) (latest?_eq_none_iff.mp hpath)
  · exact ⟨path, mem_of_latest? hpath, mem_of_valueAt? ((hlatest e.1).trans hpath), h.place he hpath⟩

/-- Without null characters, inputs are alike just if no two of one name lead to different places. -/
theorem alike_iff (h : ∀ e ∈ inputs, e.2.Clear) :
    Alike home inputs ↔ ∀ a ∈ inputs, ∀ b ∈ inputs, a.1 = b.1 → a.2.resolve home = b.2.resolve home := by
  constructor
  · intro halike a ha b hb hid
    rcases hpath : latest? inputs a.1 with _ | path
    · exact absurd (List.mem_map_of_mem ha) (latest?_eq_none_iff.mp hpath)
    · exact (halike.place ha hpath).symm.trans (halike.place hb (hid ▸ hpath))
  · intro hplaces
    exact List.pairwise_of_forall_mem_list fun a ha b hb hid => ⟨h a ha, h b hb, hplaces a ha b hb hid⟩

end Alike

/-! ## What is collected -/

section Collect

variable {tree : Tree} {sources : List Path}

/-- Inputs that are alike are all kept, unless a source cannot be examined. -/
theorem collect_of_alike (h : Alike tree.home (inputsOf tree sources)) :
    ∃ modules, Keeps tree.home (inputsOf tree sources) modules ∧
      collect tree sources =
        match unexamined? tree sources with
        | some f => .error (.file f)
        | none => .ok modules := by
  obtain ⟨modules, hfold, hkeeps⟩ := keeps_of_alike h
  refine ⟨modules, hkeeps, ?_⟩
  rw [collect_eq, hfold]
  rfl

theorem collect_of_unlike (h : ¬Alike tree.home (inputsOf tree sources)) :
    ∃ previous e, FirstUnlike tree.home (inputsOf tree sources) previous e ∧
      collect tree sources = .error (refusal previous e) := by
  obtain ⟨previous, e, hfirst⟩ := exists_unlike h
  refine ⟨previous, e, hfirst, ?_⟩
  rw [collect_eq, addModules_of_unlike hfirst]
  rfl

/-- What is collected keeps all inputs. -/
theorem keeps_of_collect {modules : List (String × Path)} (h : collect tree sources = .ok modules) :
    examined tree sources = sources ∧ Keeps tree.home (inputsOf tree sources) modules := by
  by_cases halike : Alike tree.home (inputsOf tree sources)
  · obtain ⟨modules', hkeeps, hcollect⟩ := collect_of_alike halike
    rcases hexamined : unexamined? tree sources with _ | f
    · rw [hexamined, h] at hcollect
      cases hcollect
      exact ⟨examined_of_none hexamined, hkeeps⟩
    · rw [hexamined, h] at hcollect
      cases hcollect
  · obtain ⟨previous, e, -, hcollect⟩ := collect_of_unlike halike
    rw [h, refusal] at hcollect
    split at hcollect
    · cases hcollect
    · cases hcollect

/-- Without null characters, a clash is what keeps inputs from being alike. -/
theorem exists_clash_iff (hclear : ∀ e ∈ inputsOf tree sources, e.2.Clear) :
    (∃ id previous path, collect tree sources = .error (.clash id previous path)) ↔
      ¬Alike tree.home (inputsOf tree sources) := by
  constructor
  · rintro ⟨id, previous, path, hclash⟩ halike
    obtain ⟨modules, -, hcollect⟩ := collect_of_alike halike
    rw [hclash] at hcollect
    split at hcollect
    · cases hcollect
    · cases hcollect
  · intro hnot
    obtain ⟨previous, e, ⟨before, after, hsplit, -, hlatest, -⟩, hcollect⟩ := collect_of_unlike hnot
    have hprevious : previous.Clear := hclear (e.1, previous)
      (hsplit ▸ List.mem_append_left _ (mem_of_latest? hlatest))
    have he : e.2.Clear := hclear e (hsplit ▸ List.mem_append_right _ List.mem_cons_self)
    rw [refusal, if_pos ⟨hprevious, he⟩] at hcollect
    exact ⟨_, _, _, hcollect⟩

end Collect

/-- Inputs of one name clash just if they lead to different places, and if none do, all are kept by their
names. Two things come before: a path with a null character leads nowhere, so it is refused where it has to be
compared, and a source that is too long to be examined ends what is collected. -/
theorem collect_settles (tree : Tree) (sources : List Path) :
    let inputs := inputsOf tree sources
    (∀ e, e ∈ inputs ↔ ∃ source ∈ examined tree sources, Stands tree source e) ∧
    ((∀ e ∈ inputs, e.2.Clear) →
      ((∃ id previous path, collect tree sources = .error (.clash id previous path)) ↔
        ∃ a ∈ inputs, ∃ b ∈ inputs, a.1 = b.1 ∧ a.2.resolve tree.home ≠ b.2.resolve tree.home)) ∧
    (¬Alike tree.home inputs →
      ∃ previous e, FirstUnlike tree.home inputs previous e ∧
        collect tree sources = .error (refusal previous e)) ∧
    (Alike tree.home inputs →
      match unexamined? tree sources with
      | some f => collect tree sources = .error (.file f) ∧
          ∃ source rest, sources = examined tree sources ++ source :: rest ∧
            f = .failed .nameTooLong source.text
      | none => examined tree sources = sources ∧
          ∃ modules, collect tree sources = .ok modules ∧ Keeps tree.home inputs modules) := by
  intro inputs
  refine ⟨fun e => mem_inputsOf, fun hclear => ?_, collect_of_unlike, fun halike => ?_⟩
  · rw [exists_clash_iff hclear, alike_iff hclear]
    push Not
    rfl
  · obtain ⟨modules, hkeeps, hcollect⟩ := collect_of_alike halike
    rcases hexamined : unexamined? tree sources with _ | f
    · rw [hexamined] at hcollect
      exact ⟨examined_of_none hexamined, modules, hcollect, hkeeps⟩
    · rw [hexamined] at hcollect
      exact ⟨hcollect, exists_unexamined hexamined⟩

/-- A listed tree with modules of one name in two directories. -/
def twinTree : Tree := .ofListing ["work"] [("a/x.py", .text "x = 1\n"), ("b/x.py", .text "y = 1\n")]

/-- The modules of the two directories clash. A module that is given by its directory and by itself is one. -/
theorem collect_settles_twin :
    let apart := inputsOf twinTree [.ofText "a", .ofText "b"]
    let together := inputsOf twinTree [.ofText "a", .ofText "b/../a/x.py"]
    (∀ e ∈ apart, e.2.Clear) ∧ ¬Alike twinTree.home apart ∧
      (∃ id previous path,
        collect twinTree [.ofText "a", .ofText "b"] = .error (.clash id previous path)) ∧
      (∃ previous e, FirstUnlike twinTree.home apart previous e) ∧
      Alike twinTree.home together ∧
      collect twinTree [.ofText "a", .ofText "b/../a/x.py"] =
        .ok [("x.py", .ofText "b/../a/x.py")] ∧
      Keeps twinTree.home together [("x.py", .ofText "b/../a/x.py")] := by
  intro apart together
  obtain ⟨-, hclash, hunlike, -⟩ := collect_settles twinTree [.ofText "a", .ofText "b"]
  obtain ⟨-, -, -, hkept⟩ := collect_settles twinTree [.ofText "a", .ofText "b/../a/x.py"]
  have hclear : ∀ e ∈ apart, e.2.Clear := by decide +kernel
  have hapart : ¬Alike twinTree.home apart := by
    rw [alike_iff hclear]
    decide +kernel
  have htogether : Alike twinTree.home together := (alike_iff (by decide +kernel)).mpr (by decide +kernel)
  have hexamined : unexamined? twinTree [.ofText "a", .ofText "b/../a/x.py"] = none := by decide +kernel
  have hcollect : collect twinTree [.ofText "a", .ofText "b/../a/x.py"] =
      .ok [("x.py", .ofText "b/../a/x.py")] := by decide +kernel
  have hkept := hkept htogether
  rw [hexamined] at hkept
  obtain ⟨-, modules, hmodules, hkeeps⟩ := hkept
  cases hmodules.symm.trans hcollect
  obtain ⟨previous, e, hfirst, -⟩ := hunlike hapart
  exact ⟨hclear, hapart, (hclash hclear).mpr (by decide +kernel), ⟨previous, e, hfirst⟩, htogether, hcollect,
    hkeeps⟩

/-- A name of more bytes than a name may have cannot be examined. -/
theorem modulesOf_overlong (tree : Tree) {name : String} (hclear : '\x00' ∉ name.toList)
    (hlong : name.utf8ByteSize > nameLimit) :
    modulesOf tree { names := [name] } = .error (.failed .nameTooLong name) := by
  have htext : ({ names := [name] } : Path).text = name :=
    String.empty_append.trans String.intercalate_singleton
  have hlocate : tree.locate { names := [name] } = .error (.failed .nameTooLong name) := by
    unfold Tree.locate
    rw [htext, if_neg fun hnull => hclear (List.contains_iff_mem.mp hnull)]
    split
    · rfl
    · have hback : name ≠ ".." := by
        rintro rfl
        exact absurd hlong (by decide)
      have hstep : Tree.step tree.home name = .error .nameTooLong :=
        if_pos (by simp [hback, hlong])
      exact congrArg (Except.mapError (FileFault.failed · name)) hstep
  refine modulesOf_of_error ?_
  unfold Tree.isDirectory
  rw [hlocate]

/-- A name of more bytes than a name may have. -/
def overlong : String := .ofList (List.replicate 300 'a')

/-- A source whose name is too long ends what is collected, although two that follow it clash. -/
theorem collect_overlong :
    Stands twinTree (.ofText "a/x.py") ("x.py", .ofText "a/x.py") ∧
    Stands twinTree (.ofText "b/x.py") ("x.py", .ofText "b/x.py") ∧
    (Path.ofText "a/x.py").resolve twinTree.home ≠ (Path.ofText "b/x.py").resolve twinTree.home ∧
    collect twinTree [{ names := [overlong] }, .ofText "a/x.py", .ofText "b/x.py"] =
      .error (.file (.failed .nameTooLong overlong)) := by
  have hclear : '\x00' ∉ overlong.toList := by
    unfold overlong
    rw [String.toList_ofList]
    exact fun h => absurd (List.eq_of_mem_replicate h) (by decide)
  have hlong : overlong.utf8ByteSize > nameLimit := by decide +kernel
  refine ⟨?_, ?_, ?_, ?_⟩
  · exact .itself (by decide +kernel)
  · exact .itself (by decide +kernel)
  · decide +kernel
  · unfold collect
    rw [List.foldlM_cons, modulesOf_overlong twinTree hclear hlong]
    rfl

end CommandLine

end Localize
