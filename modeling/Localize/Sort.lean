/-
  Sorting of lists by a test that says which of two elements may stand in front. Elements of which each
  may stand in front of the other keep their order. Texts are sorted by the code points of their characters.
-/

namespace Localize

/-- Inserts an element in front of the first one that it may stand in front of. -/
def insertBy (mayPrecede : α → α → Bool) (x : α) : List α → List α
  | [] => [x]
  | y :: rest => if mayPrecede x y then x :: y :: rest else y :: insertBy mayPrecede x rest

/-- Sorts a list. -/
def sortBy (mayPrecede : α → α → Bool) : List α → List α
  | [] => []
  | x :: rest => insertBy mayPrecede x (sortBy mayPrecede rest)

/-! ## Nothing is lost, and all is in order -/

theorem insertBy_perm (mayPrecede : α → α → Bool) (x : α) (xs : List α) :
    (insertBy mayPrecede x xs).Perm (x :: xs) := by
  induction xs with
  | nil => exact .refl _
  | cons y rest ih =>
    simp only [insertBy]
    split
    · exact .refl _
    · exact (ih.cons y).trans (.swap x y rest)

/-- Sorting loses no element and adds none. -/
theorem sortBy_perm (mayPrecede : α → α → Bool) (xs : List α) :
    (sortBy mayPrecede xs).Perm xs := by
  induction xs with
  | nil => exact .refl _
  | cons x rest ih => exact (insertBy_perm mayPrecede x _).trans (ih.cons x)

theorem pairwise_insertBy {mayPrecede : α → α → Bool}
    (total : ∀ x y, mayPrecede x y = false → mayPrecede y x = true)
    (trans : ∀ x y z, mayPrecede x y = true → mayPrecede y z = true → mayPrecede x z = true)
    (x : α) {xs : List α} (h : xs.Pairwise fun a b => mayPrecede a b = true) :
    (insertBy mayPrecede x xs).Pairwise fun a b => mayPrecede a b = true := by
  induction xs with
  | nil => simp [insertBy]
  | cons y rest ih =>
    obtain ⟨hy, hrest⟩ := List.pairwise_cons.mp h
    simp only [insertBy]
    split
    · rename_i hxy
      refine List.pairwise_cons.mpr ⟨fun z hz => ?_, h⟩
      rcases List.mem_cons.mp hz with rfl | hz
      · exact hxy
      · exact trans x y z hxy (hy z hz)
    · rename_i hxy
      refine List.pairwise_cons.mpr ⟨fun z hz => ?_, ih hrest⟩
      rcases List.mem_cons.mp ((insertBy_perm mayPrecede x rest).mem_iff.mp hz) with rfl | hz
      · exact total z y (by simpa using hxy)
      · exact hy z hz

/-- What is sorted by a total and transitive test is in order. -/
theorem pairwise_sortBy {mayPrecede : α → α → Bool}
    (total : ∀ x y, mayPrecede x y = false → mayPrecede y x = true)
    (trans : ∀ x y z, mayPrecede x y = true → mayPrecede y z = true → mayPrecede x z = true)
    (xs : List α) : (sortBy mayPrecede xs).Pairwise fun a b => mayPrecede a b = true := by
  induction xs with
  | nil => exact .nil
  | cons x rest ih => exact pairwise_insertBy total trans x ih

/-! ## Only the test counts -/

theorem insertBy_map {mayPrecede : α → α → Bool} {mayPrecede' : β → β → Bool} (f : α → β) {x : α}
    {ys : List α} (h : ∀ y ∈ ys, mayPrecede' (f x) (f y) = mayPrecede x y) :
    insertBy mayPrecede' (f x) (ys.map f) = (insertBy mayPrecede x ys).map f := by
  induction ys with
  | nil => rfl
  | cons y rest ih =>
    have hrest := ih fun z hz => h z (List.mem_cons_of_mem y hz)
    simp only [List.map_cons, insertBy, h y List.mem_cons_self, hrest]
    split
    · rfl
    · rfl

/-- What is mapped to elements that compare alike is sorted alike. -/
theorem sortBy_map {mayPrecede : α → α → Bool} {mayPrecede' : β → β → Bool} (f : α → β) {xs : List α}
    (h : ∀ x ∈ xs, ∀ y ∈ xs, mayPrecede' (f x) (f y) = mayPrecede x y) :
    sortBy mayPrecede' (xs.map f) = (sortBy mayPrecede xs).map f := by
  induction xs with
  | nil => rfl
  | cons x rest ih =>
    have hrest := ih fun y hy z hz => h y (List.mem_cons_of_mem x hy) z (List.mem_cons_of_mem x hz)
    have hx : ∀ y ∈ sortBy mayPrecede rest, mayPrecede' (f x) (f y) = mayPrecede x y := by
      intro y hy
      have hmem := (sortBy_perm mayPrecede rest).mem_iff.mp hy
      exact h x List.mem_cons_self y (List.mem_cons_of_mem x hmem)
    rw [List.map_cons, sortBy, sortBy, hrest, insertBy_map f hx]

/-! ## The order of texts -/

namespace Text

/-- Whether a text comes before another one. -/
def comesBefore (a b : String) : Bool := a.toList.lex b.toList fun c d => c.toNat < d.toNat

/-- Whether texts come before other ones, text by text. -/
def comeBefore (a b : List String) : Bool := a.lex b comesBefore

end Text

end Localize
