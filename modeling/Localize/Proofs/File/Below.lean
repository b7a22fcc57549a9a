/-
  What lies below a directory. In a tree whose places are apart, each place below a trail is listed once
  (`nodup_below`). A path that leads to a directory goes on as the trail does to which it leads
  (`walk_append`), whatever else there is, so what stands below a directory is read alike in two trees that
  both have it there (`read_below`).
-/
import Localize.Proofs.File.Tree
import Mathlib.Data.List.Infix
import Mathlib.Data.List.Nodup

namespace Localize.Tree

open Localize.Path (follow)

/-! ## Trees whose places are apart -/

/-- A tree in which each place is told of once. -/
def Distinct (t : Tree) : Prop := (t.nodes.map Prod.fst).Nodup

section Distinct

variable {t : Tree} {p : Path}

theorem Distinct.put (h : t.Distinct) (trail : Trail) (node : FileNode) : (t.put trail node).Distinct :=
  nodup_setEntry h trail node

theorem Distinct.makeDirectories (h : t.Distinct) : (t.makeDirectories p).1.Distinct := by
  refine makeFrom_invariant (P := Distinct) (fun _ _ _ _ hdistinct hmake => ?_) h
  obtain ⟨-, -, rfl⟩ := makeDirectory_eq_ok hmake
  exact hdistinct.put _ _

theorem Distinct.addListed (h : t.Distinct) (name : String) (content : Value) :
    (t.addListed name content).Distinct := by
  unfold Tree.addListed
  dsimp only
  split
  · exact h.makeDirectories
  · split
    · rename_i hwrite
      obtain ⟨-, -, rfl⟩ := write_eq_ok hwrite
      exact h.makeDirectories.put _ _
    · exact h.makeDirectories

theorem distinct_empty (home : Trail) : (empty home).Distinct := by
  unfold Distinct empty
  rw [List.map_map]
  refine List.Nodup.map_on (fun m hm n hn htake => ?_) List.nodup_range
  have hlength := congrArg List.length htake
  simp only [Function.comp_apply, List.length_take] at hlength
  have hm' := List.mem_range.mp hm
  have hn' := List.mem_range.mp hn
  omega

/-- In every listed tree the places are apart. -/
theorem distinct_ofListing (home : Trail) (listing : List (String × Value)) :
    (ofListing home listing).Distinct := by
  unfold ofListing
  have hfrom : ∀ t : Tree, t.Distinct → (listing.foldl (fun t e => t.addListed e.1 e.2) t).Distinct := by
    induction listing with
    | nil => exact fun t ht => ht
    | cons entry rest ih => exact fun t ht => ih _ (ht.addListed entry.1 entry.2)
  exact hfrom _ (distinct_empty home)

end Distinct

/-! ## Places below a trail -/

section Below

variable {t : Tree} {trail names : Trail}

/-- What lies below a trail is what the trail can be gone on to. -/
theorem mem_below (h : names ≠ []) : names ∈ t.below trail ↔ t.node? (trail ++ names) ≠ none := by
  have hne : trail ++ names ≠ [] := List.append_ne_nil_of_right_ne_nil trail h
  unfold below node?
  rw [if_neg hne, ne_eq, valueAt?_eq_none_iff, not_not, List.mem_map, List.mem_map]
  constructor
  · rintro ⟨e, he, rfl⟩
    obtain ⟨hmem, hway⟩ := List.mem_filter.mp he
    exact ⟨e, hmem, List.prefix_append_drop (List.isPrefixOf_iff_prefix.mp hway)⟩
  · rintro ⟨e, hmem, htrail⟩
    refine ⟨e, List.mem_filter.mpr ⟨hmem, ?_⟩, ?_⟩
    · rw [htrail]
      exact List.isPrefixOf_iff_prefix.mpr (List.prefix_append _ _)
    · rw [htrail, List.drop_left]

/-- What lies below a trail is listed once. -/
theorem nodup_below (h : t.Distinct) (trail : Trail) : (t.below trail).Nodup := by
  have hnodes : (t.nodes.filter fun n => trail.isPrefixOf n.1).Nodup := (List.Nodup.of_map _ h).filter _
  refine hnodes.map_on fun m hm n hn hdrop => ?_
  obtain ⟨hm, hmway⟩ := List.mem_filter.mp hm
  obtain ⟨hn, hnway⟩ := List.mem_filter.mp hn
  have htrails : m.1 = n.1 :=
    calc m.1 = trail ++ m.1.drop trail.length :=
          List.prefix_append_drop (List.isPrefixOf_iff_prefix.mp hmway)
      _ = trail ++ n.1.drop trail.length := congrArg _ hdrop
      _ = n.1 := (List.prefix_append_drop (List.isPrefixOf_iff_prefix.mp hnway)).symm
  exact List.inj_on_of_nodup_map h hm hn htrails

/-- What stands in front of a place in a sound tree is a directory. -/
theorem Sound.directory_of_prefix (h : t.Sound) {front : Trail} (hway : front <+: trail)
    (hne : front ≠ trail) (hnode : t.node? trail ≠ none) : t.node? front = some .directory := by
  induction trail using List.reverseRecOn with
  | nil => exact absurd (List.prefix_nil.mp hway) hne
  | append_singleton trail name ih =>
    have hparent := h.parents trail name hnode
    rcases List.prefix_concat_iff.mp hway with heq | hway
    · exact absurd heq hne
    · by_cases hfront : front = trail
      · rw [hfront]
        exact hparent
      · exact ih hway hfront (by rw [hparent]; nofun)

end Below

/-! ## Ways below a directory -/

section Walk

variable {t t' : Tree} {trail next : Trail}

theorem walk_cons {name other : String} {rest : List String} (h : step trail name = .ok next)
    (hnode : t.node? next = some .directory) :
    t.walk trail (name :: other :: rest) = t.walk next (other :: rest) := by
  rw [walk]
  · rw [h]
    dsimp only [bind, Except.bind]
    rw [hnode]
  · exact List.cons_ne_nil _ _

/-- Names that lead to a directory lead on from there. -/
theorem walk_append {front : List String} (h : t.walk trail front = .ok next)
    (hnode : t.node? next = some .directory) (names : List String) :
    t.walk trail (front ++ names) = t.walk next names := by
  induction front generalizing trail with
  | nil =>
    cases h
    rfl
  | cons name front ih =>
    rcases front with _ | ⟨other, front⟩
    · rcases names with _ | ⟨first, names⟩
      · exact h
      · exact walk_cons h hnode
    · obtain ⟨hstep, hdirectory, hrest⟩ := walk_cons_cons h
      rw [← ih hrest]
      exact walk_cons hstep hdirectory

/-- A way depends on nothing but what stands on it. -/
theorem walk_congr {names : List String}
    (h : ∀ front, front ≠ [] → front <+: names → front ≠ names →
      t'.node? (front.foldl follow trail) = t.node? (front.foldl follow trail)) :
    t'.walk trail names = t.walk trail names := by
  induction names generalizing trail with
  | nil => rfl
  | cons name rest ih =>
    rcases rest with _ | ⟨other, rest⟩
    · rfl
    · have hnode : t'.node? (follow trail name) = t.node? (follow trail name) :=
        h [name] (List.cons_ne_nil _ _) ⟨other :: rest, rfl⟩ (by simp)
      have hrest : t'.walk (follow trail name) (other :: rest) = t.walk (follow trail name) (other :: rest) := by
        refine ih fun front hfront hway hne => ?_
        exact h (name :: front) (List.cons_ne_nil _ _) (List.cons_prefix_cons.mpr ⟨rfl, hway⟩)
          fun heq => hne (List.cons.inj heq).2
      rw [walk, walk]
      · rcases hstep : step trail name with f | next
        · rfl
        · cases step_eq_ok hstep
          dsimp only [bind, Except.bind]
          rw [hnode, hrest]
      · exact List.cons_ne_nil _ _
      · exact List.cons_ne_nil _ _

end Walk

section Directory

variable {t t' : Tree} {p : Path} {names : Trail}

/-- A path that leads to a directory leads where its names say. -/
theorem locate_of_isDirectory (h : t.isDirectory p = .ok true) :
    t.locate p = .ok (p.resolve t.home) ∧ t.node? (p.resolve t.home) = some .directory := by
  unfold isDirectory at h
  split at h
  · rename_i trail hlocate
    cases (locate_eq_ok hlocate).1
    exact ⟨hlocate, of_decide_eq_true (Except.ok.inj h)⟩
  · cases h
  · cases h

theorem locate_eq_error {f : FileFault} (h : t.locate p = .error f) :
    f = .nullCharacter ∨ ∃ reason, f = .failed reason p.text := by
  unfold locate at h
  split at h
  · cases h
    exact .inl rfl
  · split at h
    · cases h
      exact .inr ⟨_, rfl⟩
    · rcases hwalk : t.walk (p.start t.home) p.names with reason | trail
      · rw [hwalk] at h
        cases h
        exact .inr ⟨_, rfl⟩
      · rw [hwalk] at h
        cases h

/-- Whether a path leads to a directory is known unless a name in it or all of it is too long. -/
theorem isDirectory_eq_error {f : FileFault} (h : t.isDirectory p = .error f) :
    f = .failed .nameTooLong p.text := by
  unfold isDirectory at h
  split at h
  · cases h
  · rename_i hlocate
    cases h
    rcases locate_eq_error hlocate with hnull | ⟨reason, hfailed⟩
    · cases hnull
    · cases hfailed
      rfl
  · cases h

/-- What has one place below a directory that two trees have is found alike in both. -/
theorem locate_below (hsound : t.Sound) (hsound' : t'.Sound) (hhome : t'.home = t.home)
    (h : t.isDirectory p = .ok true) (h' : t'.isDirectory p = .ok true)
    (hnode : t.node? (p.resolve t.home ++ names) ≠ none)
    (hnode' : t'.node? (p.resolve t.home ++ names) ≠ none) :
    t'.locate (p.append { names }) = t.locate (p.append { names }) := by
  have hproper : ∀ name ∈ names, Path.Proper name := fun name hname =>
    hsound.proper_of_node? hnode name (List.mem_append_right _ hname)
  obtain ⟨hlocate, hdirectory⟩ := locate_of_isDirectory h
  obtain ⟨hlocate', hdirectory'⟩ := locate_of_isDirectory h'
  have hwalk : t'.walk (p.start t.home) (p.names ++ names) = t.walk (p.start t.home) (p.names ++ names) := by
    have hgo' := (locate_eq_ok hlocate').2
    rw [hhome] at hgo' hdirectory'
    rw [walk_append (locate_eq_ok hlocate).2 hdirectory, walk_append hgo' hdirectory']
    refine walk_congr fun front _ hway hne => ?_
    have hfront : front.foldl follow (p.resolve t.home) = p.resolve t.home ++ front :=
      Path.foldl_follow (fun name hname => hproper name (hway.subset hname)) _
    have hway' : p.resolve t.home ++ front <+: p.resolve t.home ++ names :=
      (List.prefix_append_right_inj _).mpr hway
    have hne' : p.resolve t.home ++ front ≠ p.resolve t.home ++ names := fun heq =>
      hne (List.append_cancel_left heq)
    rw [hfront, hsound.directory_of_prefix hway' hne' hnode,
      hsound'.directory_of_prefix hway' hne' hnode']
  unfold locate
  rw [hhome]
  exact if_congr Iff.rfl rfl (if_congr Iff.rfl rfl (congrArg _ hwalk))

/-- What stands at one place below a directory that two trees have is read alike in both. -/
theorem read_below (hsound : t.Sound) (hsound' : t'.Sound) (hhome : t'.home = t.home)
    (h : t.isDirectory p = .ok true) (h' : t'.isDirectory p = .ok true)
    (hnode : t.node? (p.resolve t.home ++ names) ≠ none)
    (hsame : t'.node? (p.resolve t.home ++ names) = t.node? (p.resolve t.home ++ names)) :
    t'.read (p.append { names }) = t.read (p.append { names }) := by
  have hproper : ∀ name ∈ names, Path.Proper name := fun name hname =>
    hsound.proper_of_node? hnode name (List.mem_append_right _ hname)
  have hlocate := locate_below hsound hsound' hhome h h' hnode (hsame ▸ hnode)
  unfold read
  rw [hlocate]
  rcases hfound : t.locate (p.append { names }) with f | trail
  · rfl
  · have htrail := (locate_eq_ok hfound).1
    rw [Path.resolve_append_proper hproper] at htrail
    dsimp only [bind, Except.bind]
    rw [htrail, hsame]

end Directory

end Localize.Tree
