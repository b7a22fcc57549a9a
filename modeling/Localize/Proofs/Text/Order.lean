/-
  Orders and sorting. What holds of the order of numbers holds of that of texts by the numbers of their
  characters, and of that of lists of texts (`strict_comeBefore`). Such an order leaves only one way to sort
  (`sortBy_eq_of_perm`).
-/
import Localize.Sort
import Localize.Sort
import Mathlib.Data.List.Lex

namespace Localize

/-- A test for a strict order in which only equal items come at the same place. -/
structure Strict {α : Type} (before : α → α → Bool) : Prop where
  asymm : ∀ a b, before a b = true → before b a = false
  connected : ∀ a b c, before a c = true → before a b = true ∨ before b c = true
  apart : ∀ a b, before a b = false → before b a = false → a = b

section Strict

variable {α β : Type} {before : α → α → Bool}

/-- Items are in the order of what they are told apart by. -/
theorem Strict.comap (h : Strict before) {f : β → α} (hf : Function.Injective f) :
    Strict fun a b => before (f a) (f b) where
  asymm := fun a b => h.asymm (f a) (f b)
  connected := fun a b c => h.connected (f a) (f b) (f c)
  apart := fun a b hab hba => hf (h.apart (f a) (f b) hab hba)

/-- Lists are in the order of the first items in which they differ. -/
theorem Strict.lex [BEq α] [LawfulBEq α] (h : Strict before) : Strict fun as bs : List α => as.lex bs before := by
  let r : α → α → Prop := fun a b => before a b = true
  have hasymm : Std.Asymm r := ⟨fun a b hab =>
    Bool.eq_false_iff.mp (h.asymm a b hab)⟩
  have hconnected : IsOrderConnected α r := ⟨h.connected⟩
  have happart : Std.Trichotomous r := ⟨fun a b hab hba =>
    h.apart a b (Bool.eq_false_iff.mpr hab) (Bool.eq_false_iff.mpr hba)⟩
  have hlex : ∀ as bs : List α, as.lex bs before = true ↔ List.Lex r as bs := fun as bs =>
    List.lex_eq_true_iff_lex before
  have hnot : ∀ as bs : List α, as.lex bs before = false ↔ ¬List.Lex r as bs := fun as bs => by
    rw [← hlex, Bool.not_eq_true]
  refine ⟨fun as bs => ?_, fun as bs cs => ?_, fun as bs => ?_⟩
  · rw [hlex, hnot]
    exact Std.Asymm.asymm as bs
  · rw [hlex, hlex, hlex]
    exact IsOrderConnected.conn as bs cs
  · rw [hnot, hnot]
    exact Std.Trichotomous.trichotomous as bs

/-- Items in a strict order can be sorted in one way only. -/
theorem sortBy_eq_of_perm (h : Strict before) {xs ys : List α} (hperm : xs.Perm ys) :
    sortBy (fun a b => !before b a) xs = sortBy (fun a b => !before b a) ys := by
  have htotal : ∀ x y, (!before y x) = false → (!before x y) = true := fun x y hyx => by
    rw [Bool.not_eq_false'] at hyx
    rw [h.asymm y x hyx, Bool.not_false]
  have htrans : ∀ x y z, (!before y x) = true → (!before z y) = true → (!before z x) = true := by
    intro x y z hyx hzy
    rw [Bool.not_eq_true'] at hyx hzy ⊢
    rw [Bool.eq_false_iff] at hyx hzy ⊢
    exact fun hzx => (h.connected z y x hzx).elim hzy hyx
  refine List.Perm.eq_of_pairwise (fun a b _ _ hab hba => ?_) (pairwise_sortBy htotal htrans xs)
    (pairwise_sortBy htotal htrans ys) ((sortBy_perm _ xs).trans (hperm.trans (sortBy_perm _ ys).symm))
  rw [Bool.not_eq_true'] at hab hba
  exact h.apart a b hba hab

end Strict

namespace Text

theorem strict_lt : Strict fun m n : Nat => decide (m < n) where
  asymm := fun m n h => by simp at h ⊢; omega
  connected := fun m n k h => by simp at h ⊢; omega
  apart := fun m n h h' => by simp at h h'; omega

theorem strict_comesBefore : Strict comesBefore := by
  have hchars : Strict fun c d : Char => decide (c.toNat < d.toNat) :=
    strict_lt.comap fun c d h => Char.toNat_inj.mp h
  exact hchars.lex.comap fun a b h => String.toList_inj.mp h

theorem strict_comeBefore : Strict comeBefore := strict_comesBefore.lex

end Text

end Localize
