/-
  Templates keep below their roots. What a template gives for a locale is checked name by name, after the
  path was made straight: either nothing is asked of the tree, or all that is asked is what reading one
  path gives, whose names go on from those of the root (`load_cases`). In a sound tree the way to a
  directory leads through directories, so reading such a path goes alike in all trees that have the root
  for a directory and are the same from there on (`Tree.read_congr`). Hence what lies outside of the root
  has no part in what is loaded (`load_confined`).
-/
import Localize.Proofs.File.Below
import Localize.Source.Template

namespace Localize

/-! ## Straight paths -/

namespace Path

/-- A name that leads on or back keeps the names of a trail proper. -/
theorem proper_follow {trail : Trail} (h : ∀ n ∈ trail, Proper n) {name : String} (hname : Named name) :
    ∀ n ∈ follow trail name, Proper n := by
  intro n hn
  unfold follow at hn
  split at hn
  · exact h n (List.dropLast_subset _ hn)
  · rename_i hup
    rcases List.mem_append.mp hn with hn | hn
    · exact h n hn
    · rw [List.mem_singleton.mp hn]
      exact ⟨hname, hup⟩

/-- The trail of a text has proper names only, whatever dots the text has. -/
theorem proper_resolve {home : Trail} (h : ∀ n ∈ home, Proper n) (text : String) :
    ∀ n ∈ (ofText text).resolve home, Proper n := by
  have hstart : ∀ n ∈ (ofText text).start home, Proper n := by
    unfold start
    split
    · exact h
    · simp
  have hfold : ∀ (names : List String) (trail : Trail), (∀ n ∈ names, Named n) →
      (∀ n ∈ trail, Proper n) → ∀ n ∈ names.foldl follow trail, Proper n := by
    intro names
    induction names with
    | nil => exact fun trail _ htrail => htrail
    | cons name rest ih =>
      intro trail hnames htrail
      exact ih _ (fun n hn => hnames n (List.mem_cons_of_mem _ hn))
        (proper_follow htrail (hnames name List.mem_cons_self))
  exact hfold _ _ (fun n hn => named_of_ofText hn) hstart

/-- The path to the end of a trail of proper names leads there. -/
theorem resolve_ofTrail {trail : Trail} (h : ∀ n ∈ trail, Proper n) (home : Trail) :
    (ofTrail trail).resolve home = trail := by
  have hfold := foldl_follow h []
  rwa [List.nil_append] at hfold

end Path

/-! ## Trees that are the same below a place -/

namespace Tree

variable {t t' : Tree} {root trail : Trail}

/-- Two trees with one directory that are the same from there on. -/
structure SameBelow (t t' : Tree) (root : Trail) : Prop where
  directory : t.node? root = some .directory
  same : ∀ trail, root <+: trail → t.node? trail = t'.node? trail

/-- Trees with one directory that list the same from there on are the same from there on. -/
theorem sameBelow_of_filter (hroot : t.node? root = some .directory)
    (h : (t.nodes.filter fun e => root.isPrefixOf e.1) = t'.nodes.filter fun e => root.isPrefixOf e.1) :
    SameBelow t t' root where
  directory := hroot
  same := by
    intro trail htrail
    have hvalue := congrArg (valueAt? trail) h
    rw [valueAt?_filter (List.isPrefixOf_iff_prefix.mpr htrail),
      valueAt?_filter (List.isPrefixOf_iff_prefix.mpr htrail)] at hvalue
    unfold node?
    rw [hvalue]

/-- On the way to a place below the directory that they share, the trees have the same nodes. -/
theorem SameBelow.node?_of_prefix (h : SameBelow t t' root) (hsound : t.Sound) (hsound' : t'.Sound)
    (htrail : root <+: trail) {front : Trail} (hfront : front <+: trail) :
    t.node? front = t'.node? front := by
  -- In front of the root there are directories only, in both trees.
  rcases List.prefix_or_prefix_of_prefix hfront htrail with habove | hbelow
  · by_cases heq : front = root
    · rw [heq]
      exact h.same root List.prefix_rfl
    · have hroot : t'.node? root = some .directory := h.same root List.prefix_rfl ▸ h.directory
      rw [hsound.directory_of_prefix habove heq (by rw [h.directory]; nofun),
        hsound'.directory_of_prefix habove heq (by rw [hroot]; nofun)]
  · exact h.same front hbelow

/-- A path of proper names from the root is read alike in trees with the same nodes on the way. -/
theorem read_congr (hnames : ∀ n ∈ trail, Path.Proper n)
    (h : ∀ front, front <+: trail → t.node? front = t'.node? front) :
    t.read (.ofTrail trail) = t'.read (.ofTrail trail) := by
  have hwalk : t.walk [] trail = t'.walk [] trail := by
    refine walk_congr fun front _ hway _ => ?_
    rw [Path.foldl_follow (fun n hn => hnames n (hway.subset hn)), List.nil_append]
    exact h front hway
  have hlocate : t.locate (.ofTrail trail) = t'.locate (.ofTrail trail) := by
    unfold locate
    show (if _ then _ else if _ then _ else (t.walk [] trail).mapError _) = _
    rw [hwalk]
    rfl
  unfold read
  rw [hlocate]
  rcases hfound : t'.locate (.ofTrail trail) with f | found
  · rfl
  · obtain rfl : found = trail := by
      rw [(locate_eq_ok hfound).1, Path.resolve_ofTrail hnames]
    dsimp only [bind, Except.bind]
    rw [h found List.prefix_rfl]

end Tree

/-! ## What loading asks of a tree -/

/-- What reading a path gives is all that loading a source from it asks of a tree. -/
theorem Source.load_congr {readers : Catalog.Readers} {catalogs : Bool} {t t' : Tree} {p : Path}
    (h : t.read p = t'.read p) : load catalogs t p readers = load catalogs t' p readers := by
  have hmap : loadMap t p = loadMap t' p := by
    unfold loadMap
    rw [h]
  have hcatalog : loadCatalog catalogs t p readers = loadCatalog catalogs t' p readers := by
    unfold loadCatalog
    rw [h]
  unfold load
  rw [hmap, hcatalog]

namespace Template

variable {t : Template} {home : Trail} {text : String} {root : Option String} {readers : Catalog.Readers}

theorem trail_eq_ok {trail : Trail} (h : Template.trail home text = .ok trail) :
    trail = (Path.ofText text).resolve home := by
  unfold Template.trail at h
  split at h
  · cases h
  · exact (Except.ok.inj h).symm

/-- The root of a template is the trail of what is given, or else of the part in front. -/
theorem root_of (h : Template.of home text root = .ok t) :
    t.root = (Path.ofText (root.getD (staticPart text))).resolve home := by
  unfold Template.of at h
  split at h
  · cases h
  · rcases htrail : Template.trail home (root.getD (staticPart text)) with f | trail
    · rw [htrail] at h
      cases h
    · rw [htrail] at h
      cases h
      exact trail_eq_ok htrail

/-- A trail that a template gives is straight and goes on from the root. -/
theorem resolve_eq_ok (hhome : ∀ n ∈ home, Path.Proper n) {locale : String} {trail : Trail}
    (h : t.resolve home locale = .ok trail) : t.root <+: trail ∧ ∀ n ∈ trail, Path.Proper n := by
  unfold Template.resolve at h
  rcases hcheck : checkLocale locale with f | ⟨⟩
  · rw [hcheck] at h
    cases h
  · rw [hcheck] at h
    rcases htrail : Template.trail home (t.describe locale) with f | found
    · rw [htrail] at h
      cases h
    · rw [htrail] at h
      dsimp only [bind, Except.bind] at h
      split at h
      · rename_i hprefix
        cases h
        rw [trail_eq_ok htrail] at hprefix ⊢
        exact ⟨List.isPrefixOf_iff_prefix.mp hprefix, Path.proper_resolve hhome _⟩
      · cases h

/-- For a locale a template opens one path and no other: what it loads is the source at this path, and what
reading the path gives is all that it takes from the tree. -/
structure Opens (t : Template) (readers : Catalog.Readers) (catalogs : Bool) (home : Trail) (locale : String)
    (p : Path) : Prop where
  loads : ∀ tree : Tree, tree.home = home →
    t.load catalogs tree locale readers = (Source.load catalogs tree p readers).mapError .load
  only : ∀ tree tree' : Tree, tree.home = home → tree'.home = home → tree.read p = tree'.read p →
    t.load catalogs tree locale readers = t.load catalogs tree' locale readers

/-- For a locale a template opens nothing and fails alike in all trees, or it opens one path, whose names
go on from those of the root. -/
theorem load_cases (hhome : ∀ n ∈ home, Path.Proper n) (t : Template) (readers : Catalog.Readers)
    (catalogs : Bool) (locale : String) :
    (∃ f, ∀ tree : Tree, tree.home = home → t.load catalogs tree locale readers = .error f) ∨
      ∃ names, (∀ n ∈ t.root ++ names, Path.Proper n) ∧
        t.Opens readers catalogs home locale (.ofTrail (t.root ++ names)) := by
  rcases hresolve : t.resolve home locale with f | trail
  · refine .inl ⟨f, fun tree htree => ?_⟩
    unfold load
    rw [htree, hresolve]
    rfl
  · obtain ⟨⟨names, rfl⟩, hproper⟩ := resolve_eq_ok hhome hresolve
    have hloads : ∀ tree : Tree, tree.home = home → t.load catalogs tree locale readers =
        (Source.load catalogs tree (.ofTrail (t.root ++ names)) readers).mapError .load := by
      intro tree htree
      unfold load
      rw [htree, hresolve]
      dsimp only [bind, Except.bind]
    refine .inr ⟨names, hproper, hloads, fun tree tree' htree htree' hread => ?_⟩
    rw [hloads tree htree, hloads tree' htree', Source.load_congr hread]

/-- Whatever a template and a locale say and the readers of catalogs do, nothing is opened, or one path whose
names are proper and go on from those of the root, which is the directory that is given or else the part of
the template in front of its first placeholder. So two trees that have the root for a directory and are the
same from there on give the same source or the same fault. -/
theorem load_confined (hhome : ∀ n ∈ home, Path.Proper n) (h : Template.of home text root = .ok t)
    (readers : Catalog.Readers) (catalogs : Bool) (locale : String) :
    t.root = (Path.ofText (root.getD (staticPart text))).resolve home ∧
    ((∃ f, ∀ tree : Tree, tree.home = home → t.load catalogs tree locale readers = .error f) ∨
      ∃ names, (∀ n ∈ t.root ++ names, Path.Proper n) ∧
        t.Opens readers catalogs home locale (.ofTrail (t.root ++ names))) ∧
    ∀ tree tree' : Tree, tree.Sound → tree'.Sound → tree.home = home → tree'.home = home →
      tree.SameBelow tree' t.root →
        t.load catalogs tree locale readers = t.load catalogs tree' locale readers := by
  refine ⟨root_of h, load_cases hhome t readers catalogs locale, ?_⟩
  intro tree tree' hsound hsound' htree htree' hsame
  rcases load_cases hhome t readers catalogs locale with ⟨f, hfails⟩ | ⟨names, hproper, hopens⟩
  · rw [hfails tree htree, hfails tree' htree']
  · refine hopens.only tree tree' htree htree' (Tree.read_congr hproper fun front hfront => ?_)
    exact hsame.node?_of_prefix hsound hsound' (List.prefix_append t.root names) hfront

/-- A template with two placeholders, of which the first one ends a name. -/
def doubled : String := "l10n/app-" ++ placeholder ++ "/" ++ placeholder ++ ".json"

/-- A listed tree with maps below the root of the template and beside it. -/
def besideTree (beside : String) : Tree :=
  .ofListing ["work"] [("l10n/app-fr/fr.json", .text "\x7b\"a\": \"A\"\x7d"), ("l10n-old/fr.json", .text beside)]

/-- What stands beside the root, under a name that begins like it, does not count. -/
theorem load_confined_doubled :
    ∃ t, Template.of ["work"] doubled none = .ok t ∧ t.root = ["work", "l10n"] ∧
      (besideTree "1").SameBelow (besideTree "2") t.root ∧
      ((t.load true (besideTree "1") "fr").toOption.map fun loaded =>
        (loaded.source.resolve "a").toOption.map (·.map Value.shown)) = some (some (some "'A'")) ∧
      t.load true (besideTree "1") "fr" = t.load true (besideTree "2") "fr" := by
  have htemplate : (Template.of ["work"] doubled none).toOption = some ⟨doubled, ["work", "l10n"]⟩ := by
    decide +kernel
  have hsame : (besideTree "1").SameBelow (besideTree "2") ["work", "l10n"] :=
    Tree.sameBelow_of_filter (by decide +kernel) (by decide +kernel)
  rcases hof : Template.of ["work"] doubled none with f | t
  · rw [hof] at htemplate
    cases htemplate
  · rw [hof] at htemplate
    obtain rfl : t = ⟨doubled, ["work", "l10n"]⟩ := Option.some.inj htemplate
    refine ⟨_, rfl, rfl, hsame, by decide +kernel, ?_⟩
    exact (load_confined (by decide) hof .atHand true "fr").2.2 _ _ (Tree.sound_ofListing (by decide) _)
      (Tree.sound_ofListing (by decide) _) (by decide +kernel) (by decide +kernel) hsame

end Template

end Localize
