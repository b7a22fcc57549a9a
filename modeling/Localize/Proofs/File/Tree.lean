/-
  Trees before and after writing. Where a path can be followed it leads where its names say
  (`walk_eq_ok`), whatever stands beside it. `Keeps` says that a tree has all directories of another one
  and all files of it but some, and what can be followed or read in a tree stays so in such a one
  (`Keeps.locate`, `Keeps.read`). A file that is written is read again and takes only its own place
  (`read_of_write`), and what making one directory keeps, making all on the way keeps
  (`makeFrom_invariant`).
-/
import Localize.File.Listing
import Localize.Proofs.File.Path
import Localize.Proofs.Table

namespace Localize.Tree

open Localize.Path (follow)

/-! ## Places -/

theorem step_eq_ok {trail next : Trail} {name : String} (h : step trail name = .ok next) :
    next = follow trail name := by
  unfold step at h
  split at h
  · cases h
  · cases h
    rfl

section Walk

variable {t : Tree} {trail next : Trail}

theorem walk_cons_cons {name other : String} {rest : List String}
    (h : t.walk trail (name :: other :: rest) = .ok next) :
    step trail name = .ok (follow trail name) ∧ t.node? (follow trail name) = some .directory ∧
      t.walk (follow trail name) (other :: rest) = .ok next := by
  rw [walk] at h
  · rcases hstep : step trail name with f | first
    · rw [hstep] at h
      cases h
    · rw [hstep] at h
      cases step_eq_ok hstep
      dsimp only [bind, Except.bind] at h
      rcases hnode : t.node? (follow trail name) with _ | (content | -)
      · rw [hnode] at h
        cases h
      · rw [hnode] at h
        cases h
      · rw [hnode] at h
        exact ⟨rfl, rfl, h⟩
  · exact nofun

/-- A path that can be followed leads where its names say. -/
theorem walk_eq_ok {names : List String} (h : t.walk trail names = .ok next) :
    next = names.foldl follow trail := by
  induction names generalizing trail with
  | nil =>
    cases h
    rfl
  | cons name rest ih =>
    rcases rest with _ | ⟨other, rest⟩
    · exact step_eq_ok h
    · exact ih (walk_cons_cons h).2.2

/-- What stands in front of the last name of a path that can be followed is a directory. -/
theorem directory_of_walk {names : List String} {last : String} (htrail : t.node? trail = some .directory)
    (h : t.walk trail (names ++ [last]) = .ok next) :
    t.node? (names.foldl follow trail) = some .directory := by
  induction names generalizing trail with
  | nil => exact htrail
  | cons name rest ih =>
    rcases rest with _ | ⟨other, rest⟩
    · exact (walk_cons_cons h).2.1
    · obtain ⟨-, hdirectory, hrest⟩ := walk_cons_cons h
      exact ih hdirectory hrest

theorem locate_eq_ok {p : Path} (h : t.locate p = .ok next) :
    next = p.resolve t.home ∧ t.walk (p.start t.home) p.names = .ok next := by
  unfold locate at h
  split at h
  · cases h
  · split at h
    · cases h
    · rcases hwalk : t.walk (p.start t.home) p.names with f | trail
      · rw [hwalk] at h
        cases h
      · rw [hwalk] at h
        cases h
        exact ⟨walk_eq_ok hwalk, rfl⟩

theorem read_eq_ok {p : Path} {content : Text.Bytes} (h : t.read p = .ok content) :
    t.locate p = .ok (p.resolve t.home) ∧ t.node? (p.resolve t.home) = some (.file content) := by
  unfold read at h
  rcases hlocate : t.locate p with f | trail
  · rw [hlocate] at h
    cases h
  · rw [hlocate] at h
    cases (locate_eq_ok hlocate).1
    dsimp only [bind, Except.bind] at h
    rcases hnode : t.node? (p.resolve t.home) with _ | (content' | -)
    · rw [hnode] at h
      cases h
    · rw [hnode] at h
      cases h
      exact ⟨rfl, rfl⟩
    · rw [hnode] at h
      cases h

theorem read_of_node? {p : Path} {content : Text.Bytes} (hlocate : t.locate p = .ok trail)
    (hnode : t.node? trail = some (.file content)) : t.read p = .ok content := by
  unfold read
  rw [hlocate]
  dsimp only [bind, Except.bind]
  rw [hnode]
  rfl

end Walk

/-! ## Sound trees -/

/-- A tree as there can be: its names are proper, what has a place in it stands in a directory, and so does
its working directory. -/
structure Sound (t : Tree) : Prop where
  names : ∀ e ∈ t.nodes, ∀ name ∈ e.1, Path.Proper name
  parents : ∀ trail name, t.node? (trail ++ [name]) ≠ none → t.node? trail = some .directory
  home : t.node? t.home = some .directory

section Sound

variable {t : Tree} {p : Path}

theorem Sound.start (h : t.Sound) (p : Path) : t.node? (p.start t.home) = some .directory := by
  unfold Path.start
  split
  · exact h.home
  · rfl

theorem Sound.dropLast (h : t.Sound) {trail : Trail} (hnode : t.node? trail = some .directory) :
    t.node? trail.dropLast = some .directory := by
  rcases List.eq_nil_or_concat' trail with rfl | ⟨front, name, rfl⟩
  · rfl
  · rw [List.dropLast_concat]
    exact h.parents front name (by rw [hnode]; nofun)

/-- The path to a file ends in a name that its directory holds. -/
theorem Sound.name_of_read (h : t.Sound) (hnames : ∀ name ∈ p.names, Path.Named name)
    {content : Text.Bytes} (hread : t.read p = .ok content) : Path.Proper p.name := by
  obtain ⟨hlocate, hnode⟩ := read_eq_ok hread
  have hwalk := (locate_eq_ok hlocate).2
  unfold Path.name
  rcases List.eq_nil_or_concat' p.names with hnil | ⟨front, last, hlast⟩
  · rw [Path.resolve, hnil] at hnode
    cases (h.start p).symm.trans hnode
  · rw [hlast] at hnames hwalk
    have hdirectory := directory_of_walk (h.start p) hwalk
    rw [hlast, List.getLast?_concat]
    refine ⟨hnames last (List.mem_append_right _ (List.mem_singleton_self last)), ?_⟩
    rintro rfl
    rw [Path.resolve, hlast, List.foldl_concat] at hnode
    cases (h.dropLast hdirectory).symm.trans hnode

/-- What lies below a place has proper names. -/
theorem Sound.below (h : t.Sound) {trail names : Trail} (hnames : names ∈ t.below trail) :
    ∀ name ∈ names, Path.Proper name := by
  obtain ⟨e, he, rfl⟩ := List.mem_map.mp hnames
  exact fun name hname => h.names e (List.mem_filter.mp he).1 name (List.mem_of_mem_drop hname)

end Sound

/-! ## Changes -/

theorem node?_put {t : Tree} {trail other : Trail} {node : FileNode} :
    (t.put trail node).node? other =
      if other = [] then some .directory else if other = trail then some node else t.node? other := by
  unfold node? put
  rw [valueAt?_setEntry]
  split
  · rfl
  · rfl

/-- Where a node is put, the tree changes, and nowhere else. -/
theorem node?_put_of_ne {t : Tree} {trail other : Trail} {node : FileNode} (h : other ≠ trail) :
    (t.put trail node).node? other = t.node? other := by
  rw [node?_put, if_neg h]
  split
  · rename_i hnil
    rw [hnil]
    rfl
  · rfl

theorem node?_put_self {t : Tree} {trail : Trail} {node : FileNode}
    (h : t.node? trail ≠ some .directory) : (t.put trail node).node? trail = some node := by
  have hne : trail ≠ [] := by
    rintro rfl
    exact h rfl
  rw [node?_put, if_neg hne, if_pos rfl]

/-- A tree that has all directories of another one, and all files of it but those of certain places. -/
structure Keeps (t t' : Tree) (places : List Trail) : Prop where
  home : t'.home = t.home
  directories : ∀ trail, t.node? trail = some .directory → t'.node? trail = some .directory
  files : ∀ trail ∉ places, ∀ content, t.node? trail = some (.file content) →
    t'.node? trail = some (.file content)

theorem Keeps.refl (t : Tree) : Keeps t t [] := ⟨rfl, fun _ h => h, fun _ _ _ h => h⟩

theorem Keeps.trans {t t' t'' : Tree} {places places' : List Trail} (h : Keeps t t' places)
    (h' : Keeps t' t'' places') : Keeps t t'' (places ++ places') where
  home := h'.home.trans h.home
  directories := fun trail hnode => h'.directories trail (h.directories trail hnode)
  files := by
    intro trail htrail content hnode
    rw [List.mem_append, not_or] at htrail
    exact h'.files trail htrail.2 content (h.files trail htrail.1 content hnode)

section Keeps

variable {t t' : Tree} {places : List Trail} {p : Path}

theorem Keeps.walk (h : Keeps t t' places) {trail next : Trail} {names : List String}
    (hwalk : t.walk trail names = .ok next) : t'.walk trail names = .ok next := by
  induction names generalizing trail with
  | nil => exact hwalk
  | cons name rest ih =>
    rcases rest with _ | ⟨other, rest⟩
    · exact hwalk
    · obtain ⟨hstep, hdirectory, hrest⟩ := walk_cons_cons hwalk
      rw [Tree.walk]
      · rw [hstep]
        dsimp only [bind, Except.bind]
        rw [h.directories _ hdirectory]
        exact ih hrest
      · exact nofun

theorem Keeps.locate (h : Keeps t t' places) {next : Trail} (hlocate : t.locate p = .ok next) :
    t'.locate p = .ok next := by
  unfold Tree.locate at hlocate ⊢
  split
  · rw [if_pos ‹_›] at hlocate
    cases hlocate
  · rw [if_neg ‹_›] at hlocate
    split
    · rw [if_pos ‹_›] at hlocate
      cases hlocate
    · rw [if_neg ‹_›] at hlocate
      rcases hwalk : t.walk (p.start t.home) p.names with f | trail
      · rw [hwalk] at hlocate
        cases hlocate
      · rw [hwalk] at hlocate
        rw [h.home, h.walk hwalk]
        exact hlocate

/-- A file is still read as it was, unless its place was written to. -/
theorem Keeps.read (h : Keeps t t' places) {content : Text.Bytes} (hread : t.read p = .ok content)
    (hplace : p.resolve t.home ∉ places) : t'.read p = .ok content := by
  obtain ⟨hlocate, hnode⟩ := read_eq_ok hread
  exact read_of_node? (h.locate hlocate) (h.files _ hplace content hnode)

end Keeps

/-- A node that is put where there is no directory takes only its own place. -/
theorem put_keeps {t : Tree} {trail : Trail} (h : t.node? trail ≠ some .directory) (node : FileNode) :
    Keeps t (t.put trail node) [trail] where
  home := rfl
  directories := by
    intro other hother
    have hne : other ≠ trail := fun heq => h (heq ▸ hother)
    rw [node?_put_of_ne hne]
    exact hother
  files := by
    intro other hother content hnode
    rw [node?_put_of_ne (List.ne_of_not_mem_cons hother)]
    exact hnode

section Write

variable {t t' : Tree} {p : Path}

theorem write_eq_ok {content : Text.Bytes} (h : t.write p content = .ok t') :
    t.locate p = .ok (p.resolve t.home) ∧ t.node? (p.resolve t.home) ≠ some .directory ∧
      t' = t.put (p.resolve t.home) (.file content) := by
  unfold write at h
  rcases hlocate : t.locate p with f | trail
  · rw [hlocate] at h
    cases h
  · rw [hlocate] at h
    cases (locate_eq_ok hlocate).1
    dsimp only [bind, Except.bind] at h
    split at h
    · cases h
    · rename_i hother
      cases h
      exact ⟨rfl, hother, rfl⟩

theorem makeDirectory_eq_ok (h : t.makeDirectory p = .ok t') :
    t.locate p = .ok (p.resolve t.home) ∧ t.node? (p.resolve t.home) = none ∧
      t' = t.put (p.resolve t.home) .directory := by
  unfold makeDirectory at h
  rcases hlocate : t.locate p with f | trail
  · rw [hlocate] at h
    cases h
  · rw [hlocate] at h
    cases (locate_eq_ok hlocate).1
    dsimp only [bind, Except.bind] at h
    split at h
    · cases h
    · rename_i hnone
      cases h
      exact ⟨rfl, hnone, rfl⟩

/-- A file that is written is read again, and only its own place changes. -/
theorem read_of_write {content : Text.Bytes} (h : t.write p content = .ok t') :
    Keeps t t' [p.resolve t.home] ∧ t'.read p = .ok content := by
  obtain ⟨hlocate, hother, rfl⟩ := write_eq_ok h
  have hkeeps := put_keeps hother (.file content)
  exact ⟨hkeeps, read_of_node? (hkeeps.locate hlocate) (node?_put_self hother)⟩

/-- What making each directory on the way keeps, making all of them keeps, even where it fails. -/
theorem makeFrom_invariant {P : Tree → Prop} {anchor : Anchor} {names : List String}
    (hstep : ∀ (front : List String) (t t' : Tree), front <+: names.reverse → P t →
      t.makeDirectory ⟨anchor, front⟩ = .ok t' → P t')
    {t : Tree} (h : P t) : P (t.makeFrom anchor names).1 := by
  induction names with
  | nil => exact h
  | cons name above ih =>
    have hwhole := hstep (name :: above).reverse
    have habove : P (t.makeFrom anchor above).1 := by
      refine ih fun front t t' hfront => hstep front t t' ?_
      rw [List.reverse_cons]
      exact hfront.trans (List.prefix_append _ _)
    rw [makeFrom]
    split
    · rename_i hmake
      exact hwhole _ _ List.prefix_rfl h hmake
    · split
      · rename_i hfails
        rw [hfails] at habove
        exact habove
      · rename_i hmakes
        rw [hmakes] at habove
        split
        · rename_i hmake
          exact hwhole _ _ List.prefix_rfl habove hmake
        · exact habove
    · exact h

end Write

/-! ## Listed trees -/

section Listed

variable {t : Tree} {p : Path} {trail : Trail}

/-- The names on the way to what has a place in a sound tree are proper. -/
theorem Sound.proper_of_node? (h : t.Sound) (hnode : t.node? trail ≠ none) :
    ∀ name ∈ trail, Path.Proper name := by
  unfold node? at hnode
  split at hnode
  · rename_i hnil
    rw [hnil]
    exact fun name hname => absurd hname List.not_mem_nil
  · obtain ⟨node, hvalue⟩ := Option.ne_none_iff_exists'.mp hnode
    exact h.names _ (mem_of_valueAt? hvalue)

/-- Where a path leads to no directory, a node can be put without harm. -/
theorem Sound.put (h : t.Sound) (hnames : ∀ name ∈ p.names, Path.Named name)
    (hlocate : t.locate p = .ok trail) (hother : t.node? trail ≠ some .directory) (node : FileNode) :
    (t.put trail node).Sound := by
  obtain ⟨htrail, hwalk⟩ := locate_eq_ok hlocate
  have hkeeps := put_keeps hother node
  have hnil : trail ≠ [] := fun hnil => hother (by rw [hnil]; rfl)
  rcases List.eq_nil_or_concat' p.names with hempty | ⟨front, last, hlast⟩
  · rw [Path.resolve, hempty] at htrail
    exact absurd (htrail ▸ h.start p) hother
  · rw [hlast] at hnames hwalk
    have hdirectory := directory_of_walk (h.start p) hwalk
    rw [Path.resolve, hlast, List.foldl_concat] at htrail
    generalize front.foldl follow (p.start t.home) = place at hdirectory htrail
    have hup : last ≠ ".." := by
      rintro rfl
      exact hother (htrail ▸ h.dropLast hdirectory)
    have hproper : Path.Proper last :=
      ⟨hnames last (List.mem_append_right _ (List.mem_singleton_self last)), hup⟩
    rw [follow, if_neg hup] at htrail
    subst htrail
    refine ⟨?_, ?_, hkeeps.directories _ h.home⟩
    · intro e he
      have hkey : e.1 ∈ (setEntry (place ++ [last]) node t.nodes).map Prod.fst :=
        List.mem_map_of_mem he
      rcases mem_keys_setEntry.mp hkey with hkey | hkey
      · rw [hkey]
        intro name hname
        rcases List.mem_append.mp hname with hname | hname
        · exact h.proper_of_node? (by rw [hdirectory]; nofun) name hname
        · exact List.mem_singleton.mp hname ▸ hproper
      · obtain ⟨e', he', heq⟩ := List.mem_map.mp hkey
        exact heq ▸ h.names e' he'
    · intro other name hnode
      have hcons : other ++ [name] ≠ [] := List.append_ne_nil_of_right_ne_nil _ (List.cons_ne_nil _ _)
      rw [node?_put, if_neg hcons] at hnode
      split at hnode
      · rename_i heq
        obtain ⟨rfl, -⟩ := List.append_inj' heq rfl
        exact hkeeps.directories _ hdirectory
      · exact hkeeps.directories _ (h.parents other name hnode)

theorem Sound.makeDirectory {t' : Tree} (h : t.Sound) (hnames : ∀ name ∈ p.names, Path.Named name)
    (hmake : t.makeDirectory p = .ok t') : t'.Sound := by
  obtain ⟨hlocate, hnone, rfl⟩ := makeDirectory_eq_ok hmake
  exact h.put hnames hlocate (by rw [hnone]; nofun) .directory

theorem Sound.write {t' : Tree} {content : Text.Bytes} (h : t.Sound)
    (hnames : ∀ name ∈ p.names, Path.Named name) (hwrite : t.write p content = .ok t') : t'.Sound := by
  obtain ⟨hlocate, hother, rfl⟩ := write_eq_ok hwrite
  exact h.put hnames hlocate hother (.file content)

theorem Sound.makeFrom (h : t.Sound) (anchor : Anchor) {names : List String}
    (hnames : ∀ name ∈ names, Path.Named name) : (t.makeFrom anchor names).1.Sound :=
  makeFrom_invariant (P := Sound) (fun _ _ _ hfront hsound hmake => hsound.makeDirectory
    (fun name hname => hnames name (List.mem_reverse.mp (hfront.subset hname))) hmake) h

theorem Sound.makeDirectories (h : t.Sound) (hnames : ∀ name ∈ p.names, Path.Named name) :
    (t.makeDirectories p).1.Sound :=
  h.makeFrom p.anchor fun name hname => hnames name (List.mem_reverse.mp hname)

theorem Sound.addListed (h : t.Sound) (name : String) (content : Value) :
    (t.addListed name content).Sound := by
  have hnames : ∀ n ∈ (Path.ofText name).names, Path.Named n := fun n hn => Path.named_of_ofText hn
  unfold Tree.addListed
  dsimp only
  split
  · exact h.makeDirectories hnames
  · have hparent := h.makeDirectories (p := (Path.ofText name).parent) fun n hn =>
      hnames n (List.dropLast_subset _ hn)
    split
    · rename_i hwrite
      exact hparent.write hnames hwrite
    · exact hparent

theorem mem_nodes_empty {home : Trail} {e : Trail × FileNode} (h : e ∈ (empty home).nodes) :
    e.1 <+: home ∧ e.2 = .directory := by
  obtain ⟨n, -, rfl⟩ := List.mem_map.mp h
  exact ⟨List.take_prefix _ _, rfl⟩

theorem prefix_of_node?_empty {home : Trail} (h : (empty home).node? trail ≠ none) : trail <+: home := by
  unfold node? at h
  split at h
  · rename_i hnil
    rw [hnil]
    exact List.nil_prefix
  · obtain ⟨node, hvalue⟩ := Option.ne_none_iff_exists'.mp h
    exact (mem_nodes_empty (mem_of_valueAt? hvalue)).1

theorem node?_empty_of_prefix {home : Trail} (h : trail <+: home) :
    (empty home).node? trail = some .directory := by
  unfold node?
  split
  · rfl
  · rename_i hne
    have hlength := List.length_pos_of_ne_nil hne
    have hkey : trail ∈ (empty home).nodes.map Prod.fst := by
      refine List.mem_map.mpr ⟨(trail, .directory), List.mem_map.mpr ⟨trail.length - 1, ?_, ?_⟩, rfl⟩
      · have hle := h.length_le
        exact List.mem_range.mpr (by omega)
      · rw [Nat.sub_add_cancel hlength, ← List.prefix_iff_eq_take.mp h]
    obtain ⟨node, hvalue⟩ := Option.ne_none_iff_exists'.mp (mt valueAt?_eq_none_iff.mp (not_not.mpr hkey))
    rw [hvalue]
    exact congrArg some (mem_nodes_empty (mem_of_valueAt? hvalue)).2

theorem sound_empty {home : Trail} (h : ∀ name ∈ home, Path.Proper name) : (empty home).Sound where
  names := fun _ he name hname => h name ((mem_nodes_empty he).1.subset hname)
  parents := fun front name hnode =>
    node?_empty_of_prefix ((List.prefix_append front [name]).trans (prefix_of_node?_empty hnode))
  home := node?_empty_of_prefix (List.prefix_refl home)

/-- Every listed tree is sound. -/
theorem sound_ofListing {home : Trail} (h : ∀ name ∈ home, Path.Proper name)
    (listing : List (String × Value)) : (ofListing home listing).Sound := by
  unfold ofListing
  have hfrom : ∀ t : Tree, t.Sound → (listing.foldl (fun t e => t.addListed e.1 e.2) t).Sound := by
    induction listing with
    | nil => exact fun t ht => ht
    | cons entry rest ih => exact fun t ht => ih _ (ht.addListed entry.1 entry.2)
  exact hfrom _ (sound_empty h)

end Listed

end Localize.Tree
