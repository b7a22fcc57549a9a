/-
  The lines of a text, and the way from its offsets to lines and columns and back. Lines are
  `Delimited` by a carriage return and a line feed, by either of them alone, and at last by the end of
  the text. There is one way to cut a text into such lines, and that is how it is split
  (`eq_splitLines_iff`). Every offset lies in one line, with characters of that line in front of it and
  behind it (`exists_split`), which are its column (`lineColumnFrom_of_split`). So the bytes in front of
  an offset in its line lead back to it, and places in front of a character lead to their offsets and
  back (`offset_lineColumn`).
-/
import Localize.Proofs.Position.Offset

namespace Localize

/-! ## Delimited lines -/

/-- Characters of which none ends a line. -/
def Unbroken (body : List Char) : Prop := '\r' ∉ body ∧ '\n' ∉ body

/-- Lines with their terminators, of which only the last one has none. A carriage return that a line
feed follows is a terminator together with it. -/
inductive Delimited : List (List Char) → Prop where
  | last {body : List Char} (h : Unbroken body) : Delimited [body]
  | feed {body : List Char} {rest : List (List Char)} (h : Unbroken body) (hrest : Delimited rest) :
      Delimited ((body ++ ['\n']) :: rest)
  | pair {body : List Char} {rest : List (List Char)} (h : Unbroken body) (hrest : Delimited rest) :
      Delimited ((body ++ ['\r', '\n']) :: rest)
  | carriage {body : List Char} {rest : List (List Char)} (h : Unbroken body) (hrest : Delimited rest)
      (hnext : rest.flatten.head? ≠ some '\n') : Delimited ((body ++ ['\r']) :: rest)

theorem unbroken_nil : Unbroken [] := ⟨List.not_mem_nil, List.not_mem_nil⟩

theorem unbroken_cons {c : Char} {body : List Char} :
    Unbroken (c :: body) ↔ (c ≠ '\r' ∧ c ≠ '\n') ∧ Unbroken body := by
  simp only [Unbroken, List.mem_cons, not_or, ne_comm (a := c)]
  exact and_and_and_comm

theorem unbroken_reverse {body : List Char} : Unbroken body.reverse ↔ Unbroken body := by
  simp only [Unbroken, List.mem_reverse]

/-- What is read of a line is kept until the line ends. -/
theorem splitLinesFrom_body {body : List Char} (h : Unbroken body) (line rest : List Char) :
    splitLinesFrom line (body ++ rest) = splitLinesFrom (body.reverse ++ line) rest := by
  induction body generalizing line with
  | nil => rfl
  | cons c body ih =>
    obtain ⟨⟨hreturn, hfeed⟩, hbody⟩ := unbroken_cons.mp h
    have hstep : splitLinesFrom line (c :: (body ++ rest)) =
        splitLinesFrom (c :: line) (body ++ rest) := by
      rw [splitLinesFrom.eq_3 _ _ _ fun _ hc _ => hreturn hc]
      simp [hreturn, hfeed]
    rw [List.cons_append, hstep, ih hbody]
    simp

theorem splitLinesFrom_feed (line rest : List Char) :
    splitLinesFrom line ('\n' :: rest) = (line.reverse ++ ['\n']) :: splitLines rest := by
  simp [splitLinesFrom, splitLines]

theorem splitLinesFrom_pair (line rest : List Char) :
    splitLinesFrom line ('\r' :: '\n' :: rest) = (line.reverse ++ ['\r', '\n']) :: splitLines rest := by
  simp [splitLinesFrom, splitLines]

theorem splitLinesFrom_carriage (line : List Char) {rest : List Char} (h : rest.head? ≠ some '\n') :
    splitLinesFrom line ('\r' :: rest) = (line.reverse ++ ['\r']) :: splitLines rest := by
  have hnext : ∀ tail, '\r' = '\r' → rest = '\n' :: tail → False := by
    rintro tail - rfl
    exact h rfl
  rw [splitLinesFrom.eq_3 _ _ _ hnext]
  simp [splitLines]

/-- Delimited lines are the lines of the text that they make. -/
theorem splitLines_flatten {lines : List (List Char)} (h : Delimited lines) :
    splitLines lines.flatten = lines := by
  induction h with
  | @last body h =>
    have hbody := splitLinesFrom_body h [] []
    simpa [splitLines, splitLinesFrom] using hbody
  | @feed body rest h _ ih =>
    have hbody := splitLinesFrom_body h [] ('\n' :: rest.flatten)
    rw [splitLinesFrom_feed, ih] at hbody
    simpa [splitLines] using hbody
  | @pair body rest h _ ih =>
    have hbody := splitLinesFrom_body h [] ('\r' :: '\n' :: rest.flatten)
    rw [splitLinesFrom_pair, ih] at hbody
    simpa [splitLines] using hbody
  | @carriage body rest h _ hnext ih =>
    have hbody := splitLinesFrom_body h [] ('\r' :: rest.flatten)
    rw [splitLinesFrom_carriage _ hnext, ih] at hbody
    simpa [splitLines] using hbody

theorem delimited_splitLinesFrom {line : List Char} (h : Unbroken line) (text : List Char) :
    Delimited (splitLinesFrom line text) := by
  fun_induction splitLinesFrom line text with
  | case1 line => exact .last (unbroken_reverse.mpr h)
  | case2 line rest ih =>
    have hline : ('\n' :: '\r' :: line).reverse = line.reverse ++ ['\r', '\n'] := by simp
    rw [hline]
    exact .pair (unbroken_reverse.mpr h) (ih unbroken_nil)
  | case3 line c rest hnext hc ih =>
    rw [List.reverse_cons]
    have hrest := ih unbroken_nil
    rcases Bool.or_eq_true_iff.mp hc with hc | hc
    · obtain rfl := of_decide_eq_true hc
      refine .carriage (unbroken_reverse.mpr h) hrest ?_
      -- a line feed behind the carriage return is split by the case before
      rw [flatten_splitLinesFrom]
      intro hhead
      obtain ⟨tail, rfl⟩ := List.head?_eq_some_iff.mp hhead
      exact hnext tail rfl rfl
    · obtain rfl := of_decide_eq_true hc
      exact .feed (unbroken_reverse.mpr h) hrest
  | case4 line c rest _ hc ih =>
    have hplain : c ≠ '\r' ∧ c ≠ '\n' := by simpa using hc
    exact ih (unbroken_cons.mpr ⟨hplain, h⟩)

/-- The lines of a text are the only delimited lines that make it. -/
theorem eq_splitLines_iff {lines : List (List Char)} {text : List Char} :
    lines = splitLines text ↔ Delimited lines ∧ lines.flatten = text := by
  constructor
  · rintro rfl
    exact ⟨delimited_splitLinesFrom unbroken_nil text, flatten_splitLines text⟩
  · rintro ⟨h, rfl⟩
    exact (splitLines_flatten h).symm

theorem delimited_splitLines (text : List Char) : Delimited (splitLines text) :=
  (eq_splitLines_iff.mp rfl).1

theorem Delimited.ne_nil {lines : List (List Char)} (h : Delimited lines) : lines ≠ [] := by
  cases h <;> exact List.cons_ne_nil _ _

/-! ## Offsets in lines -/

/-- Every offset up to the end lies in a line, in front of a character unless it is the last line. -/
theorem exists_split {lines : List (List Char)} (hne : lines ≠ []) {o : Nat}
    (h : o ≤ lines.flatten.length) :
    ∃ above before after below, lines = above ++ (before ++ after) :: below ∧
      (after ≠ [] ∨ below = []) ∧ above.flatten.length + before.length = o := by
  induction lines generalizing o with
  | nil => exact absurd rfl hne
  | cons l rest ih =>
    rw [List.flatten_cons, List.length_append] at h
    by_cases hl : o < l.length
    · refine ⟨[], l.take o, l.drop o, rest, ?_, .inl ?_, ?_⟩
      · simp
      · simpa using hl
      · simp only [List.flatten_nil, List.length_nil, List.length_take]
        omega
    · by_cases hrest : rest = []
      · subst hrest
        refine ⟨[], l, [], [], by simp, .inr rfl, ?_⟩
        simp only [List.flatten_nil, List.length_nil] at h ⊢
        omega
      · obtain ⟨above, before, after, below, rfl, hplace, ho⟩ := ih hrest (o := o - l.length) (by omega)
        refine ⟨l :: above, before, after, below, rfl, hplace, ?_⟩
        simp only [List.flatten_cons, List.length_append]
        omega

/-- The line of an offset is the one that holds it, and its column counts the characters in front. -/
theorem lineColumnFrom_of_split (line : Nat) {above below : List (List Char)} {before after : List Char}
    (h : after ≠ [] ∨ below = []) :
    lineColumnFrom line (above.flatten.length + before.length) (above ++ (before ++ after) :: below) =
      (line + above.length, before.length + 1) := by
  induction above generalizing line with
  | nil =>
    simp only [List.flatten_nil, List.length_nil, Nat.zero_add, List.nil_append, Nat.add_zero]
    by_cases hbelow : below = []
    · subst hbelow
      have hmin : min before.length (before ++ after).length = before.length := by
        rw [List.length_append]
        omega
      rw [lineColumnFrom, hmin]
    · have hafter : 0 < after.length := List.length_pos_of_ne_nil (h.resolve_right hbelow)
      have hlt : before.length < (before ++ after).length := by
        rw [List.length_append]
        omega
      rw [lineColumnFrom.eq_3 _ _ _ _ hbelow, if_pos hlt]
  | cons l above ih =>
    have hrest : above ++ (before ++ after) :: below ≠ [] := by simp
    have hge : ¬ (l :: above).flatten.length + before.length < l.length := by
      simp only [List.flatten_cons, List.length_append]
      omega
    have hsub : (l :: above).flatten.length + before.length - l.length =
        above.flatten.length + before.length := by
      simp only [List.flatten_cons, List.length_append]
      omega
    rw [List.cons_append, lineColumnFrom.eq_3 _ _ _ _ hrest, if_neg hge, hsub, ih, List.length_cons]
    congr 1
    omega

namespace LineIndex

/-- The offset of the first character of a line, which is counted from one. -/
def lineStart (index : LineIndex) (line : Nat) : Nat := (index.lines.take (line - 1)).flatten.length

theorem lineColumn_of_split (index : LineIndex) {above below : List (List Char)}
    {before after : List Char} (h : index.lines = above ++ (before ++ after) :: below)
    (hplace : after ≠ [] ∨ below = []) :
    index.lineColumn (above.flatten.length + before.length : Nat) =
      (above.length + 1, before.length + 1) := by
  rw [lineColumn, Int.toNat_natCast, h, lineColumnFrom_of_split 1 hplace, Nat.add_comm 1]

theorem lineStart_of_split (index : LineIndex) {above below : List (List Char)} {line : List Char}
    (h : index.lines = above ++ line :: below) :
    index.lineStart (above.length + 1) = above.flatten.length := by
  rw [lineStart, Nat.add_sub_cancel, h, List.take_left]

/-- Places in front of characters that have the same line and column have the same offset. -/
theorem place_eq_of_lineColumn {index : LineIndex} {p q : Syntax.Point} (hp : p.AtCharacter index.lines)
    (hq : q.AtCharacter index.lines)
    (h : index.lineColumn (index.place p) = index.lineColumn (index.place q)) :
    index.place p = index.place q := by
  obtain ⟨above, before, c, after, below, split⟩ := hp
  obtain ⟨above', before', c', after', below', split'⟩ := hq
  rw [index.place_of_split split, index.place_of_split split'] at h ⊢
  rw [index.lineColumn_of_split split (.inl (List.cons_ne_nil c after)),
    index.lineColumn_of_split split' (.inl (List.cons_ne_nil c' after'))] at h
  obtain ⟨hline, hcolumn⟩ := Prod.mk.inj h
  obtain ⟨rfl, -⟩ := List.append_inj (split.symm.trans split') (Nat.succ.inj hline)
  rw [Nat.succ.inj hcolumn]

/-- Spans that have the same location start at the same offset. -/
theorem place_eq_of_location {index : LineIndex} {s t : Syntax.Span} {l : Location}
    (hs : s.Placed index.lines) (ht : t.Placed index.lines) (hsl : index.locationOfSpan s = .ok l)
    (htl : index.locationOfSpan t = .ok l) : index.place s.start = index.place t.start := by
  obtain ⟨hline, hcolumn⟩ := lineColumn_of_location hs hsl
  obtain ⟨hline', hcolumn'⟩ := lineColumn_of_location ht htl
  refine place_eq_of_lineColumn hs.start ht.start (Prod.ext ?_ ?_)
  · exact Int.ofNat.inj (hline.symm.trans hline')
  · exact Int.ofNat.inj (hcolumn.symm.trans hcolumn')

/-- The lines of a text are those that its terminators delimit. The line of an offset is one of them, and
the bytes from its start to the offset lead back to the offset. A byte column in front of a character of
a line, or at the end of the last line, leads to an offset in that line behind just as many characters. -/
theorem offset_lineColumn (text : String) :
    let index := LineIndex.of text
    (∀ lines, lines = index.lines ↔ Delimited lines ∧ lines.flatten = text.toList) ∧
    (∀ o l c : Nat, o ≤ text.length → index.lineColumn o = (l, c) →
      1 ≤ l ∧ l ≤ index.lines.length ∧ index.lineStart l ≤ o ∧
        index.offset l (byteSize ((text.toList.take o).drop (index.lineStart l))) = .ok o) ∧
    (∀ (l n : Nat) (line : List Char), 1 ≤ l → index.lines[l - 1]? = some line → n ≤ line.length →
      byteSize (line.take n) < byteSize line ∨ l = index.lines.length →
      ∃ o : Nat, index.offset l (byteSize (line.take n)) = .ok o ∧ index.lineColumn o = (l, 1 + n)) := by
  intro index
  have hdelimited : Delimited index.lines := delimited_splitLines text.toList
  have hflatten : index.lines.flatten = text.toList := index.flatten_lines
  refine ⟨fun lines => eq_splitLines_iff, ?_, ?_⟩
  · intro o l c ho hcolumn
    have ho' : o ≤ index.lines.flatten.length := by
      rw [hflatten, String.length_toList]
      exact ho
    obtain ⟨above, before, after, below, hsplit, hplace, rfl⟩ := exists_split hdelimited.ne_nil ho'
    rw [index.lineColumn_of_split hsplit hplace] at hcolumn
    obtain ⟨rfl, -⟩ := Prod.mk.inj hcolumn
    have hlength : above.length + 1 ≤ index.lines.length := by
      rw [hsplit, List.length_append, List.length_cons]
      omega
    have hbetween : (text.toList.take (above.flatten.length + before.length)).drop above.flatten.length =
        before := by
      rw [← hflatten, hsplit]
      simp [List.take_append]
    rw [index.lineStart_of_split hsplit, hbetween]
    exact ⟨by omega, hlength, by omega, index.offset_of_split hsplit⟩
  · intro l n line hl hline hn hend
    obtain ⟨hsplit, habove⟩ := Syntax.split_of_getElem? hline
    rw [← List.take_append_drop n line] at hsplit
    have hnumber : (index.lines.take (l - 1)).length + 1 = l := by omega
    have hplace : line.drop n ≠ [] ∨ index.lines.drop (l - 1 + 1) = [] := by
      rcases hend with hbytes | hlast
      · refine .inl fun hnil => ?_
        rw [List.drop_eq_nil_iff] at hnil
        rw [List.take_of_length_le hnil] at hbytes
        omega
      · refine .inr (List.drop_eq_nil_of_le ?_)
        omega
    have hoffset := index.offset_of_split hsplit
    have hcolumn := index.lineColumn_of_split hsplit hplace
    rw [hnumber] at hoffset hcolumn
    rw [List.length_take, Nat.min_eq_left hn, Nat.add_comm n 1] at hcolumn
    rw [List.length_take, Nat.min_eq_left hn] at hoffset
    exact ⟨_, hoffset, hcolumn⟩

/-- A text with all terminators: between the carriage return and the line feed behind a character of two
bytes, and in the last line, which is empty. -/
theorem offset_lineColumn_mixed :
    let index := LineIndex.of "é\r\nb\rc\n"
    index.lineColumn 2 = (1, 3) ∧ index.offset 1 3 = .ok 2 ∧
      ∃ o : Nat, index.offset 4 0 = .ok o ∧ index.lineColumn o = (4, 1) := by
  intro index
  obtain ⟨-, hback, hforth⟩ := offset_lineColumn "é\r\nb\rc\n"
  have hcolumn : index.lineColumn (2 : Nat) = (1, 3) := by decide
  obtain ⟨-, -, -, hoffset⟩ := hback 2 1 3 (by decide) hcolumn
  exact ⟨hcolumn, hoffset, hforth 4 0 [] (by decide) (by decide) (by decide) (.inr (by decide))⟩

end LineIndex

end Localize
