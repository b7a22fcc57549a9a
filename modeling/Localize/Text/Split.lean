/-
  Lists and texts in parts: splitting at certain items, which do not belong to any part, dropping what stands
  at the ends, and the ends of lines. A line ends with a line feed, a carriage return, or both in this order;
  reading a text makes a line feed of each.
-/

namespace Localize.Text

/-! ## Parts -/

/-- The parts of a list between the items that satisfy a test, of which there is one more than such
items. -/
def splitAt (test : α → Bool) : List α → List (List α)
  | [] => [[]]
  | x :: rest =>
    match splitAt test rest with
    | [] => [[x]]
    | part :: parts => if test x then [] :: part :: parts else (x :: part) :: parts

/-- Splits a list at the first item that satisfies a test; there is no second part without one. -/
def splitFirst (test : α → Bool) (xs : List α) : List α × Option (List α) :=
  (xs.takeWhile (!test ·), match xs.dropWhile (!test ·) with
    | [] => none
    | _ :: rest => some rest)

theorem splitAt_ne_nil (test : α → Bool) (xs : List α) : splitAt test xs ≠ [] := by
  cases xs with
  | nil => simp [splitAt]
  | cons x rest =>
    simp only [splitAt]
    split
    · simp
    · split <;> simp

/-- There is one part more than items to split at. -/
theorem length_splitAt (test : α → Bool) (xs : List α) :
    (splitAt test xs).length = xs.countP test + 1 := by
  induction xs with
  | nil => rfl
  | cons x rest ih =>
    simp only [splitAt]
    split
    · exact absurd (by assumption) (splitAt_ne_nil test rest)
    · rename_i part parts h
      rw [h] at ih
      by_cases hx : test x <;> simp_all

/-! ## Blanks at the ends -/

/-- The code points of white space. -/
def isSpace (c : Char) : Bool :=
  let n := c.toNat
  9 ≤ n && n ≤ 13 || 28 ≤ n && n ≤ 32 || n = 0x85 || n = 0xa0 || n = 0x1680 ||
    0x2000 ≤ n && n ≤ 0x200a || n = 0x2028 || n = 0x2029 || n = 0x202f || n = 0x205f || n = 0x3000

/-- Drops what satisfies a test at both ends. -/
def trim (test : α → Bool) (xs : List α) : List α :=
  ((xs.dropWhile test).reverse.dropWhile test).reverse

/-- A text without white space at its ends. -/
def trimSpace (cs : List Char) : List Char := trim isSpace cs

/-! ## Ends of lines -/

/-- The text with a line feed in place of each end of a line. -/
def unifyLineEnds : List Char → List Char
  | [] => []
  | '\r' :: '\n' :: rest => '\n' :: unifyLineEnds rest
  | c :: rest => (if c = '\r' then '\n' else c) :: unifyLineEnds rest

/-- A text without carriage returns is read as it is. -/
theorem unifyLineEnds_of_not_mem (cs : List Char) (h : '\r' ∉ cs) : unifyLineEnds cs = cs := by
  fun_induction unifyLineEnds cs with
  | case1 => rfl
  | case2 rest _ => simp at h
  | case3 c rest _ ih =>
    simp only [List.mem_cons, not_or] at h
    simp [ih h.2, Ne.symm h.1]

end Localize.Text
