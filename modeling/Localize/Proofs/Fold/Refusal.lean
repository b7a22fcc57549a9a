/-
  Substitutions that are refused. Ranges overlap just if they share a character or one of them is empty and
  lies inside of the other (`TextRange.overlaps_iff`). In the order of their starts each range is checked
  against the next one alone, and where that is an empty one at the same start, nothing behind it is seen.
  `render_refused_iff` says just when substitutions are refused, and that these are the ones that share a
  character as long as no empty range touches another one. Otherwise ranges that share a character may pass,
  and ranges that share none may be refused (`render_shielded`).
-/
import Localize.Proofs.Fold.Rendering
import Mathlib.Data.List.Infix
import Mathlib.Data.List.Pairwise

namespace Localize

namespace TextRange

/-! ## Common characters -/

/-- Ranges with a common character. -/
def Shares (r s : TextRange) : Prop := ∃ i, (r.start ≤ i ∧ i < r.stop) ∧ s.start ≤ i ∧ i < s.stop

/-- An empty range between two characters of another one. -/
def Within (e r : TextRange) : Prop := e.start = e.stop ∧ r.start < e.start ∧ e.start < r.stop

/-- An empty range in front of a character of another one. -/
def Touches (e r : TextRange) : Prop := e.start = e.stop ∧ r.start ≤ e.start ∧ e.start < r.stop

instance (e r : TextRange) : Decidable (e.Touches r) := inferInstanceAs (Decidable (_ ∧ _ ∧ _))

theorem shares_iff {r s : TextRange} :
    r.Shares s ↔ (r.start < r.stop ∧ s.start < s.stop) ∧ r.start < s.stop ∧ s.start < r.stop := by
  constructor
  · rintro ⟨i, hr, hs⟩
    omega
  · intro h
    exact ⟨max r.start s.start, by omega, by omega⟩

instance (r s : TextRange) : Decidable (r.Shares s) := decidable_of_iff _ shares_iff.symm

theorem Shares.symm {r s : TextRange} (h : r.Shares s) : s.Shares r := by
  obtain ⟨i, hr, hs⟩ := h
  exact ⟨i, hs, hr⟩

theorem Within.touches {e r : TextRange} (h : e.Within r) : e.Touches r :=
  ⟨h.1, Nat.le_of_lt h.2.1, h.2.2⟩

/-- Ranges overlap if they share a character, and if one of them is empty and lies inside of the other. -/
theorem overlaps_iff {r s : TextRange} :
    r.overlaps s = true ↔ r.Shares s ∨ r.Within s ∨ s.Within r := by
  have hr := r.start_le_stop
  have hs := s.start_le_stop
  simp only [overlaps, Bool.and_eq_true, decide_eq_true_eq, shares_iff, Within]
  omega

end TextRange

namespace Substitution

/-! ## What is behind a substitution -/

/-- A substitution in front of others of which the first one is empty and has the same start. -/
def Shielded (s : Substitution) (behind : List Substitution) : Prop :=
  ∃ e ∈ behind.head?, e.range.start = e.range.stop ∧ e.range.start = s.range.start

/-- A substitution that is not shielded from the others behind it, of which one shares a character with it
or is empty and lies inside of it. -/
def Clashes (s : Substitution) (behind : List Substitution) : Prop :=
  ¬ s.Shielded behind ∧ ∃ t ∈ behind, s.range.Shares t.range ∨ t.range.Within s.range

/-- Substitutions of which one clashes with those behind it, in the order of their starts. -/
def Clashing (ss : List Substitution) : Prop :=
  ∃ s behind, s :: behind <:+ sortByStart ss ∧ s.Clashes behind

/-- Among substitutions in the order of their starts, one clashes with those behind it just if it is not
clear of the first of them. -/
theorem clashes_cons_iff {s t : Substitution} {behind : List Substitution}
    (hst : s.range.start ≤ t.range.start)
    (hbehind : ∀ u ∈ behind, t.range.start ≤ u.range.start) :
    s.Clashes (t :: behind) ↔ ¬ s.Clear t := by
  have hinside : ¬ s.range.Within t.range := fun h => absurd h.2.1 (Nat.not_lt.mpr hst)
  have hcross : ¬ s.Clear t ↔ s.range.Shares t.range ∨ t.range.Within s.range := by
    rw [Clear, Bool.not_eq_false, TextRange.overlaps_iff, or_iff_right hinside]
  have hshield : s.Shielded (t :: behind) ↔
      t.range.start = t.range.stop ∧ t.range.start = s.range.start := by
    simp [Shielded]
  rw [hcross, Clashes, hshield]
  constructor
  · rintro ⟨hopen, u, hu, hclash⟩
    have htu : t.range.start ≤ u.range.start := by
      rcases List.mem_cons.mp hu with rfl | hu
      · exact Nat.le_refl _
      · exact hbehind u hu
    -- the first one behind begins no later, so it reaches into the range of `s` too
    have ht := t.range.start_le_stop
    simp only [TextRange.shares_iff, TextRange.Within] at hclash ⊢
    omega
  · intro hclash
    refine ⟨?_, t, List.mem_cons_self, hclash⟩
    simp only [TextRange.shares_iff, TextRange.Within] at hclash
    omega

/-- What holds of each item with those behind it holds of the first one, and of each later one. -/
theorem forall_suffix_cons_iff {α : Type} {P : α → List α → Prop} {x : α} {xs : List α} :
    (∀ y behind, y :: behind <:+ x :: xs → P y behind) ↔
      P x xs ∧ ∀ y behind, y :: behind <:+ xs → P y behind := by
  constructor
  · intro hall
    exact ⟨hall x xs List.suffix_rfl,
      fun y behind hsuffix => hall y behind (hsuffix.trans (List.suffix_cons x xs))⟩
  · rintro ⟨hfirst, hothers⟩ y behind hsuffix
    rcases List.suffix_cons_iff.mp hsuffix with heq | hsuffix
    · cases heq
      exact hfirst
    · exact hothers y behind hsuffix

/-- Substitutions in the order of their starts are each clear of the next one just if none of them clashes
with those behind it. -/
theorem isChain_clear_iff {ss : List Substitution}
    (hsorted : ss.Pairwise fun s t => s.range.start ≤ t.range.start) :
    ss.IsChain Clear ↔ ∀ s behind, s :: behind <:+ ss → ¬ s.Clashes behind := by
  induction ss with
  | nil => simp
  | cons s rest ih =>
    obtain ⟨hs, hrest⟩ := List.pairwise_cons.mp hsorted
    have hothers := ih hrest
    rw [forall_suffix_cons_iff, ← hothers]
    rcases rest with _ | ⟨t, behind⟩
    · simp [Clashes]
    · have hfirst := clashes_cons_iff (hs t List.mem_cons_self) (List.pairwise_cons.mp hrest).1
      rw [List.isChain_cons_cons, hfirst, not_not]

/-- Substitutions are rendered just if they are constants in the text that do not clash. -/
theorem render_eq_ok_iff {text : List Char} {ss : List Substitution} :
    (∃ out, render text ss = .ok out) ↔
      (∀ s ∈ ss, s.kind = .constant ∧ s.range.stop ≤ text.length) ∧ ¬ Clashing ss := by
  have hperm : (sortByStart ss).Perm ss := sortBy_perm _ ss
  have hcheck : (∃ out, render text ss = .ok out) ↔
      check text.length none (sortByStart ss) = .ok () := by
    unfold render
    dsimp only
    rcases check text.length none (sortByStart ss) with f | u
    · refine ⟨?_, nofun⟩
      rintro ⟨out, h⟩
      cases h
    · exact ⟨fun _ => rfl, fun _ => ⟨_, rfl⟩⟩
  rw [hcheck, check_eq_ok_iff, Option.toList_none, List.nil_append,
    isChain_clear_iff (pairwise_sortByStart ss)]
  simp only [hperm.mem_iff, Clashing, not_exists, not_and]

/-! ## Ranges that share a character -/

/-- Two of several substitutions share a character. -/
def Sharing (ss : List Substitution) : Prop := ∃ s t, [s, t].Sublist ss ∧ s.range.Shares t.range

theorem sharing_iff {ss : List Substitution} :
    Sharing ss ↔ ¬ ss.Pairwise fun s t => ¬ s.range.Shares t.range := by
  rw [List.pairwise_iff_forall_sublist]
  simp [Sharing]

theorem sharing_perm {ss ts : List Substitution} (h : ss.Perm ts) : Sharing ss ↔ Sharing ts := by
  rw [sharing_iff, sharing_iff, h.pairwise_iff fun hst hts => hst hts.symm]

theorem pairwise_iff_suffix {α : Type} {r : α → α → Prop} {xs : List α} :
    xs.Pairwise r ↔ ∀ x behind, x :: behind <:+ xs → ∀ y ∈ behind, r x y := by
  induction xs with
  | nil => simp
  | cons x xs ih => rw [List.pairwise_cons, forall_suffix_cons_iff, ih]

/-- As long as no empty range touches another one, substitutions clash just if two of them share a
character. -/
theorem clashing_iff_sharing {ss : List Substitution}
    (h : ∀ s ∈ ss, ∀ e ∈ ss, ¬ e.range.Touches s.range) : Clashing ss ↔ Sharing ss := by
  have hperm : (sortByStart ss).Perm ss := sortBy_perm _ ss
  have hmem : ∀ {s behind}, s :: behind <:+ sortByStart ss → s ∈ ss ∧ ∀ t ∈ behind, t ∈ ss := by
    intro s behind hsuffix
    have hsub : ∀ t ∈ s :: behind, t ∈ ss := fun t ht => hperm.mem_iff.mp (hsuffix.mem ht)
    exact List.forall_mem_cons.mp hsub
  rw [← sharing_perm hperm, sharing_iff, pairwise_iff_suffix]
  push Not
  constructor
  · rintro ⟨s, behind, hsuffix, -, t, ht, hclash⟩
    obtain ⟨hs, hothers⟩ := hmem hsuffix
    have hwithin : ¬ t.range.Within s.range := fun hin => h s hs t (hothers t ht) hin.touches
    exact ⟨s, behind, hsuffix, t, ht, hclash.resolve_right hwithin⟩
  · rintro ⟨s, behind, hsuffix, t, ht, hshares⟩
    obtain ⟨hs, hothers⟩ := hmem hsuffix
    refine ⟨s, behind, hsuffix, ?_, t, ht, .inl hshares⟩
    rintro ⟨e, he, hempty, hstart⟩
    have hholds := (TextRange.shares_iff.mp hshares).1
    refine h s hs e (hothers e (List.mem_of_mem_head? he)) ⟨hempty, ?_, ?_⟩
    · omega
    · omega

/-- Substitutions are refused just if one is no constant, one ends behind the text, or one clashes with those
behind it. As long as no empty range touches another one, they clash just if two of them share a
character. -/
theorem render_refused_iff (text : List Char) (ss : List Substitution) :
    ((∃ f, render text ss = .error f) ↔
      (∃ s ∈ ss, s.kind ≠ .constant) ∨ (∃ s ∈ ss, text.length < s.range.stop) ∨ Clashing ss) ∧
    ((∀ s ∈ ss, ∀ e ∈ ss, ¬ e.range.Touches s.range) → (Clashing ss ↔ Sharing ss)) := by
  refine ⟨?_, clashing_iff_sharing⟩
  have hrefused : (∃ f, render text ss = .error f) ↔ ¬ ∃ out, render text ss = .ok out := by
    rcases render text ss with f | out
    · simp
    · simp
  have hunfit : (¬ ∀ s ∈ ss, s.kind = .constant ∧ s.range.stop ≤ text.length) ↔
      (∃ s ∈ ss, s.kind ≠ .constant) ∨ ∃ s ∈ ss, text.length < s.range.stop := by
    simp only [forall_and, not_and_or, not_forall, Nat.not_le, exists_prop]
  rw [hrefused, render_eq_ok_iff, not_and_or, not_not, hunfit, or_assoc]

/-- Two ranges with a common character, and an empty one in front of both, are refused. -/
theorem render_refused_sample :
    (∀ s ∈ [constantAt 1 3 "'A'", constantAt 0 0 "'B'", constantAt 2 4 "'C'"],
      ∀ e ∈ [constantAt 1 3 "'A'", constantAt 0 0 "'B'", constantAt 2 4 "'C'"],
        ¬ e.range.Touches s.range) ∧
    ∃ f, render "text".toList [constantAt 1 3 "'A'", constantAt 0 0 "'B'", constantAt 2 4 "'C'"] =
      .error f := by
  have hapart : ∀ s ∈ [constantAt 1 3 "'A'", constantAt 0 0 "'B'", constantAt 2 4 "'C'"],
      ∀ e ∈ [constantAt 1 3 "'A'", constantAt 0 0 "'B'", constantAt 2 4 "'C'"],
        ¬ e.range.Touches s.range := by
    decide
  have hsharing : Sharing [constantAt 1 3 "'A'", constantAt 0 0 "'B'", constantAt 2 4 "'C'"] :=
    ⟨constantAt 1 3 "'A'", constantAt 2 4 "'C'", by decide, by decide⟩
  obtain ⟨hrefused, hclashing⟩ := render_refused_iff "text".toList
    [constantAt 1 3 "'A'", constantAt 0 0 "'B'", constantAt 2 4 "'C'"]
  exact ⟨hapart, hrefused.mpr (.inr (.inr ((hclashing hapart).mpr hsharing)))⟩

/-- Behind an empty range at the start of another one, ranges pass that share a character with the latter,
and the text comes out with characters twice. An empty range inside of another one is refused. -/
theorem render_shielded :
    (render "abc".toList [constantAt 0 3 "'A'", constantAt 0 0 "'B'", constantAt 1 2 "'C'"]).toOption =
      some "'A''B'a'C'c".toList ∧
    (constantAt 0 3 "'A'").range.Shares (constantAt 1 2 "'C'").range ∧
    (render "ab".toList [constantAt 0 2 "'A'", constantAt 1 1 "'B'"]).toOption = none ∧
    ¬ (constantAt 0 2 "'A'").range.Shares (constantAt 1 1 "'B'").range := by
  decide

end Substitution

end Localize
