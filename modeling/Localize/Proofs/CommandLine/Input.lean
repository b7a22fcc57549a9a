/-
  What a run reads. The names of the modules that it collects are apart (`collected_of_collect`), those of
  modules that can be read are made of names that directories hold (`names_of_modulesOf`), and what is
  read is the text of each module in its encoding, in the same order (`reads_of_readModules`).
-/
import Localize.CommandLine.Run
import Localize.Proofs.File.Tree
import Localize.Proofs.Pairs

namespace Localize.CommandLine

/-! ## Folds that may fail -/

section Fold

variable {α β ε : Type}

/-- What each step of a fold keeps holds at its end. -/
theorem foldlM_keeps {P : β → Prop} {f : β → α → Except ε β} {as : List α}
    (hstep : ∀ a ∈ as, ∀ b b', P b → f b a = .ok b' → P b') {b b' : β} (h : P b)
    (hfold : as.foldlM f b = .ok b') : P b' := by
  induction as generalizing b with
  | nil =>
    cases hfold
    exact h
  | cons a as ih =>
    rw [List.foldlM_cons] at hfold
    rcases hf : f b a with e | next
    · rw [hf] at hfold
      cases hfold
    · rw [hf] at hfold
      exact ih (fun a' ha' => hstep a' (List.mem_cons_of_mem _ ha'))
        (hstep a List.mem_cons_self b next h hf) hfold

end Fold

/-! ## Names of modules -/

theorem place_eq_ok {home trail : Trail} {p : Path} (h : p.place home = .ok trail) :
    trail = p.resolve home := by
  unfold Path.place at h
  split at h
  · cases h
  · cases h
    rfl

/-- A module is added where its name is new, or where its path leads to the place that the name has. -/
theorem addModule_cases {home : Trail} {modules modules' : List (String × Path)} {id : String}
    {path : Path} (h : addModule home modules (id, path) = .ok modules') :
    valueAt? id modules = none ∧ modules' = setEntry id path modules ∨
      ∃ previous, valueAt? id modules = some previous ∧ previous.resolve home = path.resolve home ∧
        modules' = setEntry id path modules := by
  unfold addModule at h
  dsimp only at h
  rcases hvalue : valueAt? id modules with _ | previous
  · rw [hvalue] at h
    cases h
    exact .inl ⟨rfl, rfl⟩
  · rw [hvalue] at h
    dsimp only at h
    rcases hthere : previous.place home with f | there
    · rw [hthere] at h
      cases h
    · rcases hhere : path.place home with f | here
      · rw [hthere, hhere] at h
        cases h
      · rw [hthere, hhere] at h
        dsimp only [Except.mapError, bind, Except.bind] at h
        split at h
        · cases h
          exact .inr ⟨previous, rfl, by rw [← place_eq_ok hthere, ← place_eq_ok hhere]; assumption, rfl⟩
        · cases h

theorem addModule_eq_ok {home : Trail} {modules modules' : List (String × Path)}
    {added : String × Path} (h : (modules.map Prod.fst).Nodup)
    (hadd : addModule home modules added = .ok modules') :
    (modules'.map Prod.fst).Nodup ∧ ∀ e ∈ modules', e = added ∨ e ∈ modules := by
  obtain ⟨id, path⟩ := added
  have hset : ((setEntry id path modules).map Prod.fst).Nodup ∧
      ∀ e ∈ setEntry id path modules, e = (id, path) ∨ e ∈ modules :=
    ⟨nodup_setEntry h id path, fun e he => ((mem_setEntry h).mp he).imp_right And.left⟩
  rcases addModule_cases hadd with ⟨-, rfl⟩ | ⟨previous, -, -, rfl⟩
  · exact hset
  · exact hset

/-- Modules of which each comes from a source, under names that are apart. -/
structure Collected (tree : Tree) (sources : List Path) (modules : List (String × Path)) : Prop where
  distinct : (modules.map Prod.fst).Nodup
  origin : ∀ e ∈ modules, ∃ source ∈ sources, ∃ added, modulesOf tree source = .ok added ∧ e ∈ added

theorem collected_nil (tree : Tree) (sources : List Path) : Collected tree sources [] :=
  ⟨List.nodup_nil, fun _ he => absurd he List.not_mem_nil⟩

theorem Collected.addModule {tree : Tree} {sources : List Path} {modules modules' : List (String × Path)}
    (h : Collected tree sources modules) {source : Path} (hsource : source ∈ sources)
    {added : List (String × Path)} (hof : modulesOf tree source = .ok added) {e : String × Path}
    (he : e ∈ added) (hadd : CommandLine.addModule tree.home modules e = .ok modules') :
    Collected tree sources modules' := by
  obtain ⟨hdistinct, hmember⟩ := addModule_eq_ok h.distinct hadd
  refine ⟨hdistinct, fun e' he' => ?_⟩
  rcases hmember e' he' with rfl | hold
  · exact ⟨source, hsource, added, hof, he⟩
  · exact h.origin e' hold

theorem collected_of_collect {tree : Tree} {sources : List Path} {modules : List (String × Path)}
    (h : collect tree sources = .ok modules) : Collected tree sources modules := by
  unfold collect at h
  refine foldlM_keeps (P := Collected tree sources) ?_ (collected_nil tree sources) h
  intro source hsource modules modules' hmodules hstep
  rcases hof : modulesOf tree source with f | added
  · rw [hof] at hstep
    cases hstep
  · rw [hof] at hstep
    exact foldlM_keeps (fun e he _ _ hbefore hadd => hbefore.addModule hsource hof he hadd)
      hmodules hstep

/-- The name of a module that can be read is made of names that directories hold. -/
theorem names_of_modulesOf {tree : Tree} (hsound : tree.Sound) {source : Path}
    (hnames : ∀ name ∈ source.names, Path.Named name) {added : List (String × Path)}
    (h : modulesOf tree source = .ok added) {e : String × Path} (he : e ∈ added)
    {content : Text.Bytes} (hread : tree.read e.2 = .ok content) :
    ∃ names, names ≠ [] ∧ (∀ name ∈ names, Path.Proper name) ∧ e.1 = Path.joined names := by
  unfold modulesOf at h
  rcases hdirectory : tree.isDirectory source with f | isDirectory
  · rw [hdirectory] at h
    cases h
  · rw [hdirectory] at h
    dsimp only [bind, Except.bind] at h
    cases isDirectory with
    | false =>
      cases h
      rw [List.mem_singleton.mp he] at hread ⊢
      have hproper := hsound.name_of_read hnames hread
      refine ⟨[source.name], List.cons_ne_nil _ _, fun name hname => ?_, ?_⟩
      · exact List.mem_singleton.mp hname ▸ hproper
      · exact String.intercalate_singleton.symm
    | true =>
      rw [if_pos rfl] at h
      rcases hlocate : tree.locate source with f | trail
      · rw [hlocate] at h
        cases h
      · rw [hlocate] at h
        cases h
        obtain ⟨names, hbelow, rfl⟩ := List.mem_map.mp he
        obtain ⟨hmem, hmodule⟩ := List.mem_filter.mp ((sortBy_perm _ _).mem_iff.mp hbelow)
        refine ⟨names, ?_, hsound.below hmem, rfl⟩
        rintro rfl
        cases hmodule

theorem named_of_options {arguments : List String} {o : Options} (h : Options.of arguments = .ok o) :
    ∀ source ∈ o.sources, ∀ name ∈ source.names, Path.Named name := by
  unfold Options.of at h
  rcases hwords : wordsOf arguments with f | words
  · rw [hwords] at h
    cases h
  · rw [hwords] at h
    dsimp only [Except.mapError, bind, Except.bind] at h
    rcases hread : readWords {} words with f | p
    · rw [hread] at h
      cases h
    · rw [hread] at h
      dsimp only at h
      split at h
      · cases h
      · split at h
        · cases h
          intro source hsource
          obtain ⟨text, -, rfl⟩ := List.mem_map.mp hsource
          exact fun name hname => Path.named_of_ofText hname
        · cases h

/-! ## Texts of modules -/

/-- An input as it is read for a module. -/
structure Reads (tree : Tree) (entry : String × Path) (i : Input) : Prop where
  id : i.id = entry.1
  path : i.path = entry.2
  text : readModule tree i.path = .ok (i.encoding, i.text)

theorem reads_of_readModules {tree : Tree} {modules : List (String × Path)} {inputs : List Input}
    (h : readModules tree modules = .ok inputs) : List.Forall₂ (Reads tree) modules inputs := by
  refine (forall₂_of_mapM h).imp fun entry i hi => ?_
  obtain ⟨id, path⟩ := entry
  dsimp only at hi
  rcases hread : readModule tree path with f | ⟨encoding, text⟩
  · rw [hread] at hi
    cases hi
  · rw [hread] at hi
    cases hi
    exact ⟨rfl, rfl, hread⟩

/-- What is read for a module: its file is decoded in its encoding. -/
theorem readModule_eq_ok {tree : Tree} {path : Path} {encoding : Text.Encoding} {text : String}
    (h : readModule tree path = .ok (encoding, text)) :
    ∃ bytes cs, tree.read path = .ok bytes ∧ encoding.decode bytes = .ok cs ∧
      text.toList = Text.unifyLineEnds cs := by
  unfold readModule at h
  rcases hread : tree.read path with f | bytes
  · rw [hread] at h
    cases h
  · rw [hread] at h
    dsimp only [Except.mapError, bind, Except.bind] at h
    rcases hencoding : Text.sourceEncoding bytes with f | encoding'
    · rw [hencoding] at h
      cases h
    · rw [hencoding] at h
      dsimp only at h
      rcases hdecode : encoding'.decode bytes with f | cs
      · rw [hdecode] at h
        cases h
      · rw [hdecode] at h
        cases h
        exact ⟨bytes, cs, rfl, hdecode, String.toList_ofList⟩

theorem ids_of_reads {tree : Tree} {modules : List (String × Path)} {inputs : List Input}
    (h : List.Forall₂ (Reads tree) modules inputs) : inputs.map Input.id = modules.map Prod.fst :=
  (map_eq_map_iff_forall₂.mpr (h.imp fun _ _ hi => hi.id.symm)).symm

/-! ## What is prepared -/

section Prepare

variable {host : Host} {tree : Tree} {o : Options} {p : Prepared}

theorem prepareInputs_eq_ok {settings : Settings} {primary fallback : Option Source.Loaded}
    (h : prepareInputs tree o settings primary fallback = .ok p) :
    p.outDir = settings.outDir ∧
      ∃ modules, collect tree o.sources = .ok modules ∧ List.Forall₂ (Reads tree) modules p.inputs := by
  unfold prepareInputs at h
  rcases hconfig : Config.of (givenOf primary) (givenOf fallback) (.text settings.functionName)
    with d | config
  · rw [hconfig] at h
    cases h
  · rcases hcollect : collect tree o.sources with f | modules
    · rw [hconfig, hcollect] at h
      cases h
    · rw [hconfig, hcollect] at h
      dsimp only [Except.mapError, bind, Except.bind] at h
      rcases hread : readModules tree modules with f | inputs
      · rw [hread] at h
        cases h
      · rw [hread] at h
        cases h
        exact ⟨rfl, modules, rfl, reads_of_readModules hread⟩

theorem prepare_eq_ok (h : (prepare tree o host).2 = .ok p) :
    ∃ settings primary fallback, settingsOf tree o = .ok settings ∧
      prepareInputs tree o settings primary fallback = .ok p := by
  unfold prepare at h
  rcases hsettings : settingsOf tree o with f | settings
  · rw [hsettings] at h
    cases h
  · rw [hsettings] at h
    dsimp only at h
    split at h
    · cases h
    · split at h
      · cases h
      · exact ⟨settings, _, _, rfl, h⟩

/-- What a run has prepared comes from modules that were collected and read. -/
theorem exists_collect (h : (prepare tree o host).2 = .ok p) :
    ∃ modules, collect tree o.sources = .ok modules ∧ List.Forall₂ (Reads tree) modules p.inputs := by
  obtain ⟨settings, primary, fallback, -, hinputs⟩ := prepare_eq_ok h
  exact (prepareInputs_eq_ok hinputs).2

/-- What a run has prepared is written to the directory of its settings. -/
theorem outDir_of_prepare (h : (prepare tree o host).2 = .ok p) :
    ∃ settings, settingsOf tree o = .ok settings ∧ p.outDir = settings.outDir := by
  obtain ⟨settings, primary, fallback, hsettings, hinputs⟩ := prepare_eq_ok h
  exact ⟨settings, hsettings, (prepareInputs_eq_ok hinputs).1⟩

theorem nodup_prepare (h : (prepare tree o host).2 = .ok p) : (p.inputs.map Input.id).Nodup := by
  obtain ⟨modules, hcollect, hreads⟩ := exists_collect h
  rw [ids_of_reads hreads]
  exact (collected_of_collect hcollect).distinct

end Prepare

end Localize.CommandLine
