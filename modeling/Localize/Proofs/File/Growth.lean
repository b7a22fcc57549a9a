/-
  What writing can change in a tree. `Grows` says where a tree may differ from another one: at certain
  places it has files in the place of files or of nothing, and at certain others it has directories
  where there was nothing. A file that is written changes its own place only (`write_grows`), and making
  directories changes places on the way only (`makeDirectories_grows`). What has grown keeps the rest
  (`Grows.keeps`).
-/
import Localize.Proofs.File.Tree
import Mathlib.Data.Set.Insert

namespace Localize

/-- The places on the way along a path, up to where it leads. -/
def Path.way (home : Trail) (p : Path) : Set Trail :=
  { trail | ∃ front, front <+: p.names ∧ trail = (⟨p.anchor, front⟩ : Path).resolve home }

namespace Tree

/-- A tree that differs from another one at most in files at certain places and in directories that are
new at certain others. -/
structure Grows (t t' : Tree) (files directories : Set Trail) : Prop where
  home : t'.home = t.home
  nodes : ∀ trail, t'.node? trail = t.node? trail ∨
    trail ∈ files ∧ t.node? trail ≠ some .directory ∧
      (∃ content, t'.node? trail = some (.file content)) ∨
    trail ∈ directories ∧ t.node? trail = none ∧ t'.node? trail = some .directory

theorem Grows.refl (t : Tree) (files directories : Set Trail) : Grows t t files directories :=
  ⟨rfl, fun _ => .inl rfl⟩

section Grows

variable {t t' t'' : Tree} {files directories : Set Trail} {p : Path}

theorem Grows.mono {files' directories' : Set Trail} (h : Grows t t' files directories)
    (hfiles : files ⊆ files') (hdirectories : directories ⊆ directories') :
    Grows t t' files' directories' where
  home := h.home
  nodes := fun trail => (h.nodes trail).imp_right
    (Or.imp (And.imp_left fun hmem => hfiles hmem) (And.imp_left fun hmem => hdirectories hmem))

theorem Grows.trans (h : Grows t t' files directories) (h' : Grows t' t'' files directories) :
    Grows t t'' files directories where
  home := h'.home.trans h.home
  nodes := by
    intro trail
    rcases h'.nodes trail with hsame' | ⟨hmem, hother, hfile⟩ | ⟨hmem, hnone, hnew⟩
    · rw [hsame']
      exact h.nodes trail
    · rcases h.nodes trail with hsame | ⟨-, hother', -⟩ | ⟨-, -, hnew⟩
      · exact .inr (.inl ⟨hmem, hsame ▸ hother, hfile⟩)
      · exact .inr (.inl ⟨hmem, hother', hfile⟩)
      · exact absurd hnew hother
    · rcases h.nodes trail with hsame | ⟨-, -, content, hfile⟩ | ⟨-, -, hnew'⟩
      · exact .inr (.inr ⟨hmem, hsame ▸ hnone, hnew⟩)
      · cases hfile.symm.trans hnone
      · cases hnew'.symm.trans hnone

/-- A tree that has grown has all directories of the other one, and all files but those of the places. -/
theorem Grows.keeps {places : List Trail} (h : Grows t t' files directories)
    (hplaces : ∀ trail ∈ files, trail ∈ places) : Keeps t t' places where
  home := h.home
  directories := by
    intro trail hnode
    rcases h.nodes trail with hsame | ⟨-, hother, -⟩ | ⟨-, hnone, -⟩
    · rw [hsame]
      exact hnode
    · exact absurd hnode hother
    · cases hnone.symm.trans hnode
  files := by
    intro trail hplace content hnode
    rcases h.nodes trail with hsame | ⟨hmem, -, -⟩ | ⟨-, hnone, -⟩
    · rw [hsame]
      exact hnode
    · exact absurd (hplaces trail hmem) hplace
    · cases hnone.symm.trans hnode

theorem write_grows {content : Text.Bytes} (h : t.write p content = .ok t') :
    Grows t t' {p.resolve t.home} ∅ := by
  obtain ⟨-, hother, rfl⟩ := write_eq_ok h
  refine ⟨rfl, fun trail => ?_⟩
  by_cases hplace : trail = p.resolve t.home
  · subst hplace
    exact .inr (.inl ⟨rfl, hother, content, node?_put_self hother⟩)
  · exact .inl (node?_put_of_ne hplace)

theorem makeDirectory_grows (h : t.makeDirectory p = .ok t') :
    Grows t t' ∅ {p.resolve t.home} := by
  obtain ⟨-, hnone, rfl⟩ := makeDirectory_eq_ok h
  have hother : t.node? (p.resolve t.home) ≠ some .directory := by
    rw [hnone]
    nofun
  refine ⟨rfl, fun trail => ?_⟩
  by_cases hplace : trail = p.resolve t.home
  · subst hplace
    exact .inr (.inr ⟨rfl, hnone, node?_put_self hother⟩)
  · exact .inl (node?_put_of_ne hplace)

/-- Making directories changes places on the way only, even where it fails. -/
theorem makeDirectories_grows (t : Tree) (p : Path) :
    Grows t (t.makeDirectories p).1 ∅ (p.way t.home) := by
  refine makeFrom_invariant (P := fun t' => Grows t t' ∅ (p.way t.home)) ?_ (.refl t _ _)
  intro front t' t'' hfront hgrows hmake
  rw [List.reverse_reverse] at hfront
  have hplace : (⟨p.anchor, front⟩ : Path).resolve t'.home ∈ p.way t.home :=
    ⟨front, hfront, by rw [hgrows.home]⟩
  have hstep := makeDirectory_grows hmake
  exact hgrows.trans (hstep.mono (Set.empty_subset _) (Set.singleton_subset_iff.mpr hplace))

/-- Making directories takes nothing away. -/
theorem makeDirectories_keeps (t : Tree) (p : Path) : Keeps t (t.makeDirectories p).1 [] :=
  (makeDirectories_grows t p).keeps nofun

end Grows

end Tree

end Localize
