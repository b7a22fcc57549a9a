/-
  Lists whose items go together one by one, as what is built goes with its sources and what is read with
  its files.
-/
import Mathlib.Data.List.Forall2

namespace Localize

variable {α β γ ε : Type} {R : α → β → Prop} {as : List α} {bs : List β}

/-- Lists are mapped to the same list just if their items go together. -/
theorem map_eq_map_iff_forall₂ {f : α → γ} {g : β → γ} :
    as.map f = bs.map g ↔ List.Forall₂ (fun a b => f a = g b) as bs := by
  rw [← List.forall₂_eq_eq_eq, List.forall₂_map_left_iff, List.forall₂_map_right_iff]

theorem forall₂_comp {S : β → γ → Prop} {cs : List γ} (h : List.Forall₂ R as bs)
    (h' : List.Forall₂ S bs cs) : List.Forall₂ (fun a c => ∃ b, R a b ∧ S b c) as cs := by
  induction h generalizing cs with
  | nil =>
    cases h'
    exact .nil
  | cons hab _ ih =>
    cases h' with
    | cons hbc hrest => exact .cons ⟨_, hab, hbc⟩ (ih hrest)

/-- Items that go together are items of the lists. -/
theorem forall₂_mem (h : List.Forall₂ R as bs) :
    List.Forall₂ (fun a b => a ∈ as ∧ b ∈ bs ∧ R a b) as bs := by
  have hright := (List.forall₂_and_left bs as).mpr ⟨fun b hb => hb, h.flip⟩
  exact (List.forall₂_and_left as bs).mpr ⟨fun a ha => ha, hright.flip⟩

/-- Each item of the first list goes with one of the second. -/
theorem exists_of_mem_forall₂ (h : List.Forall₂ R as bs) {a : α} (ha : a ∈ as) : ∃ b ∈ bs, R a b := by
  induction h with
  | nil => cases ha
  | @cons _ b _ _ hab _ ih =>
    rcases List.mem_cons.mp ha with rfl | ha
    · exact ⟨b, List.mem_cons_self, hab⟩
    · obtain ⟨b', hmem, hb'⟩ := ih ha
      exact ⟨b', List.mem_cons_of_mem _ hmem, hb'⟩

/-- What a function that may fail gives for each item goes with the item. -/
theorem forall₂_of_mapM {f : α → Except ε β} (h : as.mapM f = .ok bs) :
    List.Forall₂ (fun a b => f a = .ok b) as bs := by
  induction as generalizing bs with
  | nil =>
    cases h
    exact .nil
  | cons a as ih =>
    rw [List.mapM_cons] at h
    rcases hf : f a with e | b
    · rw [hf] at h
      cases h
    · rw [hf] at h
      rcases hrest : as.mapM f with e | bs'
      · rw [hrest] at h
        cases h
      · rw [hrest] at h
        cases h
        exact .cons hf (ih hrest)

end Localize
