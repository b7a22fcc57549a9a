/-
  Rendering against a definition that knows neither order nor cursor: `Substitution.replaced` goes
  through a text character by character, writes the literals of the substitutions that begin at
  an offset, and keeps the character there unless a substitution covers it. `render_of_fits` says
  that rendering succeeds and agrees with it for substitutions in any order, as long as their ranges
  hold something, lie in the text and lie apart.
-/
import Localize.Fold.Substitution
import Mathlib.Data.List.Basic

namespace Localize.Substitution

/-! ## The text with all ranges replaced -/

/-- The literals of the substitutions that begin at an offset. -/
def literalsAt (ss : List Substitution) (i : Nat) : List Char :=
  (ss.filter (·.range.start = i)).flatMap (·.encoded.toList)

/-- Whether the character at an offset lies in the range of a substitution. -/
def covered (ss : List Substitution) (i : Nat) : Bool :=
  ss.any fun s => s.range.start ≤ i && i < s.range.stop

/-- The characters from offset `i` on with the ranges replaced. -/
def replacedFrom (ss : List Substitution) (i : Nat) : List Char → List Char
  | [] => []
  | c :: rest =>
    literalsAt ss i ++ (if covered ss i then [] else [c]) ++ replacedFrom ss (i + 1) rest

/-- A text with each range replaced by its literal, and every other character once and in order. -/
def replaced (text : List Char) (ss : List Substitution) : List Char := replacedFrom ss 0 text

/-- Ranges without a common character. -/
def Apart (s t : Substitution) : Prop :=
  s.range.stop ≤ t.range.start ∨ t.range.stop ≤ s.range.start

/-- A constant with a range that holds something and lies in a text of some length. -/
structure Fits (length : Nat) (s : Substitution) : Prop where
  isConstant : s.kind = .constant
  nonempty : s.range.start < s.range.stop
  inside : s.range.stop ≤ length

instance (s t : Substitution) : Decidable (Apart s t) := inferInstanceAs (Decidable (_ ∨ _))

instance (length : Nat) (s : Substitution) : Decidable (Fits length s) :=
  decidable_of_iff (s.kind = .constant ∧ s.range.start < s.range.stop ∧ s.range.stop ≤ length)
    ⟨fun ⟨h, h', h''⟩ => ⟨h, h', h''⟩, fun h => ⟨h.isConstant, h.nonempty, h.inside⟩⟩

theorem Apart.symm {s t : Substitution} (h : s.Apart t) : t.Apart s := Or.symm h

/-! ## What `replacedFrom` does on a stretch of the text -/

theorem literalsAt_eq_nil {ss : List Substitution} {i : Nat} (h : ∀ s ∈ ss, s.range.start ≠ i) :
    literalsAt ss i = [] := by
  have : ss.filter (·.range.start = i) = [] := by
    rw [List.filter_eq_nil_iff]
    intro s hs
    simpa using h s hs
  rw [literalsAt, this, List.flatMap_nil]

theorem covered_eq_false {ss : List Substitution} {i : Nat}
    (h : ∀ s ∈ ss, i < s.range.start ∨ s.range.stop ≤ i) : covered ss i = false := by
  rw [covered, List.any_eq_false]
  intro s hs
  have := h s hs
  simp only [Bool.and_eq_true, decide_eq_true_eq]
  omega

theorem replacedFrom_nil (i : Nat) (text : List Char) : replacedFrom [] i text = text := by
  induction text generalizing i with
  | nil => rfl
  | cons c rest ih => simp [replacedFrom, literalsAt, covered, ih]

/-- In front of all ranges the text stays as it is. -/
theorem replacedFrom_before {ss : List Substitution} (xs ys : List Char) (i : Nat)
    (h : ∀ s ∈ ss, i + xs.length ≤ s.range.start) :
    replacedFrom ss i (xs ++ ys) = xs ++ replacedFrom ss (i + xs.length) ys := by
  induction xs generalizing i with
  | nil => simp
  | cons c xs ih =>
    have hstart : ∀ s ∈ ss, i < s.range.start := by
      intro s hs
      have := h s hs
      simp only [List.length_cons] at this
      omega
    have hlit : literalsAt ss i = [] :=
      literalsAt_eq_nil fun s hs => Nat.ne_of_gt (hstart s hs)
    have hcov : covered ss i = false := covered_eq_false fun s hs => .inl (hstart s hs)
    have hlen : i + (c :: xs).length = i + 1 + xs.length := by
      simp only [List.length_cons]; omega
    rw [List.cons_append, replacedFrom, hlit, hcov, hlen, ih (i + 1) (by rw [← hlen]; exact h)]
    simp

/-- Inside of a range nothing is written. -/
theorem replacedFrom_inside {ss : List Substitution} {s : Substitution} (hs : s ∈ ss)
    (xs ys : List Char) (i : Nat) (hi : s.range.start < i) (hstop : i + xs.length ≤ s.range.stop)
    (h : ∀ t ∈ ss, t.range.start < i ∨ s.range.stop ≤ t.range.start) :
    replacedFrom ss i (xs ++ ys) = replacedFrom ss (i + xs.length) ys := by
  induction xs generalizing i with
  | nil => simp
  | cons c xs ih =>
    simp only [List.length_cons] at hstop
    have hlit : literalsAt ss i = [] := by
      refine literalsAt_eq_nil fun t ht => ?_
      have := h t ht
      omega
    have hcov : covered ss i = true := by
      rw [covered, List.any_eq_true]
      refine ⟨s, hs, ?_⟩
      simp only [Bool.and_eq_true, decide_eq_true_eq]
      omega
    have hnext : ∀ t ∈ ss, t.range.start < i + 1 ∨ s.range.stop ≤ t.range.start := by
      intro t ht
      have := h t ht
      omega
    rw [List.cons_append, replacedFrom, hlit, hcov, ih (i + 1) (by omega) (by omega) hnext]
    simp only [List.length_cons, if_true, List.nil_append]
    congr 1
    omega

/-- Behind its range a substitution has no effect. -/
theorem replacedFrom_behind {s : Substitution} {rest : List Substitution} (text : List Char)
    (i : Nat) (hs : s.range.stop ≤ i) (hne : s.range.start < s.range.stop) :
    replacedFrom (s :: rest) i text = replacedFrom rest i text := by
  induction text generalizing i with
  | nil => rfl
  | cons c text ih =>
    have hlit : literalsAt (s :: rest) i = literalsAt rest i := by
      have : ¬ s.range.start = i := by omega
      simp [literalsAt, this]
    have hcov : covered (s :: rest) i = covered rest i := by
      have : (s.range.start ≤ i && i < s.range.stop) = false := by
        rw [Bool.and_eq_false_iff]
        right
        simpa using hs
      simp [covered, List.any_cons, this]
    rw [replacedFrom, replacedFrom, hlit, hcov, ih (i + 1) (by omega)]

/-! ## Order does not matter -/

theorem length_le_one_of_pairwise {α : Type} {r : α → α → Prop} {xs : List α} (h : xs.Pairwise r)
    (hno : ∀ x ∈ xs, ∀ y ∈ xs, ¬ r x y) : xs.length ≤ 1 := by
  match xs with
  | [] => exact Nat.zero_le 1
  | [_] => exact Nat.le_refl 1
  | x :: y :: _ =>
    have hxy := (List.pairwise_cons.mp h).1 y List.mem_cons_self
    exact absurd hxy (hno x List.mem_cons_self y (List.mem_cons_of_mem _ List.mem_cons_self))

theorem eq_of_perm_of_length_le_one {α : Type} {xs ys : List α} (h : xs.Perm ys)
    (hlen : xs.length ≤ 1) : xs = ys := by
  match xs with
  | [] => exact (List.nil_perm.mp h).symm
  | [_] => exact List.singleton_perm.mp h
  | _ :: _ :: _ => simp at hlen

theorem literalsAt_perm {ss ts : List Substitution} (hperm : ss.Perm ts)
    (hne : ∀ s ∈ ss, s.range.start < s.range.stop) (hapart : ss.Pairwise Apart) (i : Nat) :
    literalsAt ss i = literalsAt ts i := by
  have hmem : ∀ s ∈ ss.filter (·.range.start = i), s ∈ ss ∧ s.range.start = i := by
    intro s hs
    simpa using List.mem_filter.mp hs
  -- two substitutions that begin at one offset would share the character there
  have hone : (ss.filter (·.range.start = i)).length ≤ 1 := by
    refine length_le_one_of_pairwise (hapart.sublist List.filter_sublist) ?_
    intro s hs t ht hst
    obtain ⟨hs, hsi⟩ := hmem s hs
    obtain ⟨ht, hti⟩ := hmem t ht
    have := hne s hs
    have := hne t ht
    rcases hst with h | h <;> omega
  rw [literalsAt, literalsAt, eq_of_perm_of_length_le_one (hperm.filter _) hone]

theorem replacedFrom_perm {ss ts : List Substitution} (hperm : ss.Perm ts)
    (hne : ∀ s ∈ ss, s.range.start < s.range.stop) (hapart : ss.Pairwise Apart)
    (i : Nat) (text : List Char) : replacedFrom ss i text = replacedFrom ts i text := by
  induction text generalizing i with
  | nil => rfl
  | cons c rest ih =>
    have hcov : covered ss i = covered ts i := hperm.any_eq
    rw [replacedFrom, replacedFrom, literalsAt_perm hperm hne hapart, hcov, ih]

/-! ## Rendering -/

/-- Substitutions in the order of the text: each ends before the next one begins. -/
abbrev InOrder (s t : Substitution) : Prop := s.range.stop ≤ t.range.start

theorem pairwise_sortByStart (ss : List Substitution) :
    (sortByStart ss).Pairwise fun s t => s.range.start ≤ t.range.start := by
  refine (pairwise_sortBy ?_ ?_ ss).imp fun h => of_decide_eq_true h
  · intro s t h
    rw [decide_eq_false_iff_not] at h
    exact decide_eq_true (Nat.le_of_not_le h)
  · intro s t u h h'
    exact decide_eq_true (Nat.le_trans (of_decide_eq_true h) (of_decide_eq_true h'))

theorem inOrder_sortByStart {length : Nat} {ss : List Substitution}
    (hfits : ∀ s ∈ ss, Fits length s) (hapart : ss.Pairwise Apart) :
    (sortByStart ss).Pairwise InOrder := by
  have hperm : (sortByStart ss).Perm ss := sortBy_perm _ ss
  have hapart' : (sortByStart ss).Pairwise Apart := hperm.symm.pairwise hapart fun h => h.symm
  refine ((pairwise_sortByStart ss).and hapart').imp_of_mem ?_
  intro s t hs ht hst
  have h1 := (hfits s (hperm.mem_iff.mp hs)).nonempty
  have h2 := (hfits t (hperm.mem_iff.mp ht)).nonempty
  rcases hst with ⟨hle, h | h⟩
  · exact h
  · simp only [InOrder]
    omega

/-- Substitutions that pass the check next to each other. -/
def Clear (s t : Substitution) : Prop := s.range.overlaps t.range = false

theorem InOrder.clear {s t : Substitution} (h : InOrder s t) : s.Clear t := by
  simp only [InOrder] at h
  simp only [Clear, TextRange.overlaps, Bool.and_eq_false_iff, decide_eq_false_iff_not]
  omega

theorem check_cons_eq_ok_iff {length : Nat} {previous : Option Substitution} {s : Substitution}
    {rest : List Substitution} :
    check length previous (s :: rest) = .ok () ↔
      (s.kind = .constant ∧ s.range.stop ≤ length) ∧ (∀ p ∈ previous, Clear p s) ∧
        check length (some s) rest = .ok () := by
  conv_lhs => unfold check
  rcases s.kind with _ | name
  · by_cases hend : s.range.stop > length
    · simp [hend, Nat.not_le.mpr hend]
    · rcases previous with _ | p
      · simp [hend, Nat.not_lt.mp hend]
      · cases hclear : p.range.overlaps s.range <;> simp [hend, Nat.not_lt.mp hend, Clear, hclear]
  · simp

/-- Substitutions pass the check just if they are constants in the text, each of which is clear of the
next one. -/
theorem check_eq_ok_iff {length : Nat} {previous : Option Substitution} {ss : List Substitution} :
    check length previous ss = .ok () ↔
      (∀ s ∈ ss, s.kind = .constant ∧ s.range.stop ≤ length) ∧
        (previous.toList ++ ss).IsChain Clear := by
  induction ss generalizing previous with
  | nil => cases previous <;> simp [check]
  | cons s rest ih =>
    rw [check_cons_eq_ok_iff, ih, List.forall_mem_cons]
    cases previous with
    | none => simp [and_assoc]
    | some p => simp [List.isChain_cons_cons, and_assoc, and_left_comm]

/-- Substitutions that fit and are in order pass the check. -/
theorem check_eq_ok {length : Nat} {ss : List Substitution} (hfits : ∀ s ∈ ss, Fits length s)
    (horder : ss.Pairwise InOrder) : check length none ss = .ok () :=
  check_eq_ok_iff.mpr ⟨fun s hs => ⟨(hfits s hs).isConstant, (hfits s hs).inside⟩,
    (horder.imp InOrder.clear).isChain⟩

theorem drop_eq_slice_append (text : List Char) {start stop : Nat} (h : start ≤ stop) :
    text.drop start = slice text start stop ++ text.drop stop := by
  have hdrop : text.drop stop = (text.drop start).drop (stop - start) := by
    rw [List.drop_drop]
    congr 1
    omega
  rw [slice, hdrop, List.take_append_drop]

theorem length_slice {text : List Char} {start stop : Nat} (h : stop ≤ text.length) :
    (slice text start stop).length = stop - start := by
  rw [slice, List.length_take, List.length_drop]
  omega

/-- At the start of its range a substitution writes its literal, and nothing else up to the end. -/
theorem replacedFrom_range {s : Substitution} {rest : List Substitution} {xs ys : List Char}
    (hne : s.range.start < s.range.stop) (hlen : xs.length = s.range.stop - s.range.start)
    (hrest : ∀ t ∈ rest, s.range.stop ≤ t.range.start) :
    replacedFrom (s :: rest) s.range.start (xs ++ ys) =
      s.encoded.toList ++ replacedFrom rest s.range.stop ys := by
  have hpos : 0 < xs.length := by omega
  obtain ⟨c, cs, rfl⟩ := List.exists_cons_of_length_pos hpos
  simp only [List.length_cons] at hlen
  have hlit : literalsAt (s :: rest) s.range.start = s.encoded.toList := by
    have hnil : literalsAt rest s.range.start = [] := by
      refine literalsAt_eq_nil fun t ht => ?_
      have := hrest t ht
      omega
    rw [literalsAt] at hnil ⊢
    rw [List.filter_cons_of_pos (by simp), List.flatMap_cons, hnil, List.append_nil]
  have hcov : covered (s :: rest) s.range.start = true := by
    simp [covered, hne]
  have hother : ∀ t ∈ s :: rest, t.range.start < s.range.start + 1 ∨ s.range.stop ≤ t.range.start := by
    intro t ht
    rcases List.mem_cons.mp ht with rfl | ht
    · exact .inl (Nat.lt_succ_self _)
    · exact .inr (hrest t ht)
  rw [List.cons_append, replacedFrom, hlit, hcov,
    replacedFrom_inside List.mem_cons_self cs ys _ (Nat.lt_succ_self _) (by omega) hother,
    replacedFrom_behind ys _ (by omega) hne,
    show s.range.start + 1 + cs.length = s.range.stop by omega]
  simp

/-- The renderer's loop over substitutions in order, from a cursor in front of all of them. -/
theorem splice_eq_replacedFrom {text : List Char} {cursor : Nat} {ss : List Substitution}
    (hfits : ∀ s ∈ ss, Fits text.length s) (horder : ss.Pairwise InOrder)
    (hcursor : ∀ s ∈ ss, cursor ≤ s.range.start) :
    splice text cursor ss = replacedFrom ss cursor (text.drop cursor) := by
  induction ss generalizing cursor with
  | nil => rw [splice, replacedFrom_nil]
  | cons s rest ih =>
    obtain ⟨hs, hrest⟩ := List.pairwise_cons.mp horder
    have hfit := hfits s List.mem_cons_self
    have hstart : cursor ≤ s.range.start := hcursor s List.mem_cons_self
    have hne := hfit.nonempty
    have hin := hfit.inside
    have hbefore : cursor + (slice text cursor s.range.start).length = s.range.start := by
      rw [length_slice (by omega)]
      omega
    have hfront : ∀ t ∈ s :: rest,
        cursor + (slice text cursor s.range.start).length ≤ t.range.start := by
      intro t ht
      rw [hbefore]
      rcases List.mem_cons.mp ht with rfl | ht
      · exact Nat.le_refl _
      · have := hs t ht
        simp only [InOrder] at this
        omega
    rw [splice, drop_eq_slice_append text hstart,
      drop_eq_slice_append text (Nat.le_of_lt hne), replacedFrom_before _ _ _ hfront, hbefore,
      replacedFrom_range hne (length_slice hin) hs,
      ih (fun t ht => hfits t (List.mem_cons_of_mem _ ht)) hrest hs, List.append_assoc]

/-- Substitutions that fit a text and lie apart are rendered, whatever their order, and the result
is the text with each range replaced. -/
theorem render_of_fits {text : List Char} {ss : List Substitution}
    (hfits : ∀ s ∈ ss, Fits text.length s) (hapart : ss.Pairwise Apart) :
    render text ss = .ok (replaced text ss) := by
  have hperm : (sortByStart ss).Perm ss := sortBy_perm _ ss
  have horder := inOrder_sortByStart hfits hapart
  have hfits' : ∀ s ∈ sortByStart ss, Fits text.length s :=
    fun s hs => hfits s (hperm.mem_iff.mp hs)
  have hcheck : check text.length none (sortByStart ss) = .ok () := check_eq_ok hfits' horder
  have hsplice : splice text 0 (sortByStart ss) = replaced text ss := by
    rw [splice_eq_replacedFrom hfits' horder fun _ _ => Nat.zero_le _, List.drop_zero, replaced,
      replacedFrom_perm hperm.symm (fun s hs => (hfits s hs).nonempty) hapart]
  unfold render
  simp only [hcheck, hsplice]
  rfl

/-- A constant in the first line of a text. -/
def constantAt (start stop : Nat) (encoded : String) (h : start ≤ stop := by decide) : Substitution where
  encoded := encoded
  range := ⟨start, stop, h⟩
  location := .point 1 (start + 1)

end Localize.Substitution
