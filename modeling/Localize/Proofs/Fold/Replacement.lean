/-
  All replacements at once. Substitutions that fit a text and lie apart are rendered to the text that is cut
  at the bounds of their ranges, with the literals in place of what the ranges hold (`Cut`); their order does
  not matter, and one at a time from the last range to the first they give the same
  (`render_simultaneous`).
-/
import Localize.Proofs.Fold.Rendering
import Mathlib.Data.List.Induction

namespace Localize.Substitution

/-! ## Texts that are cut -/

/-- The text from an offset on, cut at the bounds of ranges one after the other, and the same text with the
literals in place of what the ranges hold. -/
inductive Cut : Nat → List Char → List Substitution → List Char → Prop where
  | last (start : Nat) (kept : List Char) : Cut start kept [] kept
  | range {start : Nat} {kept held rest out : List Char} {s : Substitution} {ss : List Substitution}
      (hstart : s.range.start = start + kept.length)
      (hstop : s.range.stop = s.range.start + held.length) (hrest : Cut s.range.stop rest ss out) :
      Cut start (kept ++ held ++ rest) (s :: ss) (kept ++ s.encoded.toList ++ out)

section Order

variable {text : List Char} {ss ts : List Substitution}

/-- The loop of rendering cuts the text at each range. -/
theorem cut_splice {cursor : Nat} (hfits : ∀ s ∈ ss, Fits text.length s) (horder : ss.Pairwise InOrder)
    (hcursor : ∀ s ∈ ss, cursor ≤ s.range.start) :
    Cut cursor (text.drop cursor) ss (splice text cursor ss) := by
  induction ss generalizing cursor with
  | nil => exact .last cursor _
  | cons s rest ih =>
    obtain ⟨hs, hrest⟩ := List.pairwise_cons.mp horder
    have hfit := hfits s List.mem_cons_self
    have hstart : cursor ≤ s.range.start := hcursor s List.mem_cons_self
    have hinside := hfit.inside
    have hholds := hfit.nonempty
    have hnext : Cut s.range.stop (text.drop s.range.stop) rest (splice text s.range.stop rest) :=
      ih (fun t ht => hfits t (List.mem_cons_of_mem _ ht)) hrest hs
    have hkept : (slice text cursor s.range.start).length = s.range.start - cursor :=
      length_slice (by omega)
    have hheld : (slice text s.range.start s.range.stop).length = s.range.stop - s.range.start :=
      length_slice hinside
    rw [splice, drop_eq_slice_append text hstart, drop_eq_slice_append text s.range.start_le_stop,
      ← List.append_assoc]
    exact .range (by omega) (by omega) hnext

/-! ## One at a time -/

/-- The text with substitutions put in place one at a time, each in what the one before it leaves. -/
def renderEach (text : List Char) (ss : List Substitution) : Except Fault (List Char) :=
  ss.foldlM (fun text s => render text [s]) text

theorem splice_single (text : List Char) (s : Substitution) :
    splice text 0 [s] =
      text.take s.range.start ++ (s.encoded.toList ++ text.drop s.range.stop) := by
  simp [splice, slice]

/-- Where texts agree up to an offset they have the same slices in front of it. -/
theorem slice_take_append {back : List Char} {start stop n : Nat} (hstop : stop ≤ n)
    (hn : n ≤ text.length) : slice (text.take n ++ back) start stop = slice text start stop := by
  have hlength : (text.take n).length = n := by simp [hn]
  have htake : (text.take n ++ back).take stop = text.take stop := by
    rw [List.take_append_of_le_length (by omega), List.take_take, Nat.min_eq_left hstop]
  unfold slice
  rw [← List.drop_take, htake, List.drop_take]

/-- The last of several substitutions can be put in place before the others. -/
theorem splice_concat {cursor : Nat} {s : Substitution} (hs : s.range.stop ≤ text.length)
    (hss : ∀ t ∈ ss, InOrder t s) (hcursor : cursor ≤ s.range.start) :
    splice text cursor (ss ++ [s]) = splice (splice text 0 [s]) cursor ss := by
  have hstart : s.range.start ≤ text.length := Nat.le_trans s.range.start_le_stop hs
  rw [splice_single]
  induction ss generalizing cursor with
  | nil =>
    have hlength : cursor ≤ (text.take s.range.start).length := by simp [hstart, hcursor]
    rw [List.nil_append, splice, splice, splice, List.drop_append_of_le_length hlength, slice,
      List.drop_take, List.append_assoc]
  | cons t rest ih =>
    have ht : InOrder t s := hss t List.mem_cons_self
    have hkept : t.range.start ≤ s.range.start := Nat.le_trans t.range.start_le_stop ht
    rw [List.cons_append, splice, splice, slice_take_append hkept hstart,
      ih (fun u hu => hss u (List.mem_cons_of_mem _ hu)) ht]

theorem splice_eq_replaced (hfits : ∀ s ∈ ss, Fits text.length s) (horder : ss.Pairwise InOrder) :
    splice text 0 ss = replaced text ss := by
  rw [splice_eq_replacedFrom hfits horder fun _ _ => Nat.zero_le _, List.drop_zero, replaced]

theorem le_length_splice_single {s : Substitution} (hs : s.range.stop ≤ text.length) :
    s.range.start ≤ (splice text 0 [s]).length := by
  have hstart : s.range.start ≤ text.length := Nat.le_trans s.range.start_le_stop hs
  rw [splice_single, List.length_append, List.length_take, Nat.min_eq_left hstart]
  exact Nat.le_add_right _ _

/-- One at a time from the last to the first, substitutions give what they give at once. -/
theorem renderEach_reverse (hfits : ∀ s ∈ ss, Fits text.length s) (horder : ss.Pairwise InOrder) :
    renderEach text ss.reverse = .ok (splice text 0 ss) := by
  induction ss using List.reverseRecOn generalizing text with
  | nil => rfl
  | append_singleton ss s ih =>
    obtain ⟨hss, -, hlast⟩ := List.pairwise_append.mp horder
    have hs : Fits text.length s := hfits s (by simp)
    have hbefore : ∀ t ∈ ss, InOrder t s := fun t ht => hlast t ht s (by simp)
    have hfirst : render text [s] = .ok (splice text 0 [s]) := by
      have hsingle : ∀ t ∈ [s], Fits text.length t := by simpa using hs
      rw [render_of_fits hsingle (List.pairwise_singleton _ _),
        splice_eq_replaced hsingle (List.pairwise_singleton _ _)]
    -- what the last one leaves is as long as the others need
    have hfits' : ∀ t ∈ ss, Fits (splice text 0 [s]).length t := by
      intro t ht
      have hfit := hfits t (by simp [ht])
      exact ⟨hfit.isConstant, hfit.nonempty,
        Nat.le_trans (hbefore t ht) (le_length_splice_single hs.inside)⟩
    rw [splice_concat hs.inside hbefore (Nat.zero_le _), ← ih hfits' hss]
    unfold renderEach
    rw [List.reverse_concat, List.foldlM_cons, hfirst]
    rfl

/-! ## At once -/

theorem replaced_perm (hperm : ts.Perm ss) (hfits : ∀ s ∈ ss, Fits text.length s)
    (hapart : ss.Pairwise Apart) : replaced text ts = replaced text ss :=
  (replacedFrom_perm hperm.symm (fun s hs => (hfits s hs).nonempty) hapart 0 text).symm

/-- Substitutions that fit a text and lie apart are rendered, and what comes out is the text that is cut at
the bounds of their ranges with the literals in place of these. Any order of the substitutions gives the
same, and so do they one at a time, from the last range to the first. -/
theorem render_simultaneous (hfits : ∀ s ∈ ss, Fits text.length s) (hapart : ss.Pairwise Apart) :
    render text ss = .ok (replaced text ss) ∧
      (∃ ts : List Substitution, ts.Perm ss ∧ Cut 0 text ts (replaced text ss)) ∧
      (∀ ts : List Substitution, ts.Perm ss → render text ts = render text ss) ∧
      (∃ ts : List Substitution, ts.Perm ss ∧ ts.Pairwise fun s t => InOrder t s) ∧
      ∀ ts : List Substitution, ts.Perm ss → (ts.Pairwise fun s t => InOrder t s) →
        renderEach text ts = render text ss := by
  have hsorted : (sortByStart ss).Perm ss := sortBy_perm _ ss
  have horder := inOrder_sortByStart hfits hapart
  have hrender := render_of_fits hfits hapart
  have hany : ∀ ts : List Substitution, ts.Perm ss → ∀ s ∈ ts, Fits text.length s :=
    fun ts hperm s hs => hfits s (hperm.mem_iff.mp hs)
  rw [hrender]
  refine ⟨rfl, ⟨sortByStart ss, hsorted, ?_⟩, fun ts hperm => ?_,
    ⟨(sortByStart ss).reverse, (List.reverse_perm _).trans hsorted, List.pairwise_reverse.mpr horder⟩,
    fun ts hperm hlast => ?_⟩
  · have hcut := cut_splice (hany _ hsorted) horder fun _ _ => Nat.zero_le _
    rw [splice_eq_replaced (hany _ hsorted) horder, replaced_perm hsorted hfits hapart,
      List.drop_zero] at hcut
    exact hcut
  · have hapart' : ts.Pairwise Apart := hperm.symm.pairwise hapart fun h => h.symm
    rw [render_of_fits (hany ts hperm) hapart', replaced_perm hperm hfits hapart]
  · have hperm' : ts.reverse.Perm ss := (List.reverse_perm ts).trans hperm
    have horder' : ts.reverse.Pairwise InOrder := List.pairwise_reverse.mpr hlast
    have heach := renderEach_reverse (hany _ hperm') horder'
    rw [List.reverse_reverse, splice_eq_replaced (hany _ hperm') horder',
      replaced_perm hperm' hfits hapart] at heach
    exact heach

end Order

/-- Ranges at both ends of a text, the second one right behind the first, in another order. -/
theorem render_simultaneous_sample :
    render "abcdef".toList [constantAt 4 6 "''", constantAt 0 2 "'x'", constantAt 2 3 "'long'"] =
        .ok "'x''long'd''".toList ∧
      renderEach "abcdef".toList
        [constantAt 4 6 "''", constantAt 2 3 "'long'", constantAt 0 2 "'x'"] =
        .ok "'x''long'd''".toList := by
  have hfits : ∀ s ∈ [constantAt 4 6 "''", constantAt 0 2 "'x'", constantAt 2 3 "'long'"],
      Fits "abcdef".toList.length s := by decide
  obtain ⟨hrender, -, -, -, heach⟩ := render_simultaneous hfits (by decide)
  have htext : replaced "abcdef".toList
      [constantAt 4 6 "''", constantAt 0 2 "'x'", constantAt 2 3 "'long'"] =
        "'x''long'd''".toList := by decide
  rw [htext] at hrender
  exact ⟨hrender, (heach _ (by decide) (by decide)).trans hrender⟩

end Localize.Substitution
