/-
  Places in a text and the offsets they stand for. A place is a line with a byte column at which a
  character begins or the line ends (`Point.In`); a column behind the end of a line stands for the end, so
  that such a place is `Reached` too. Every place that is reached has an offset in the text
  (`offset_of_reached`), and offsets keep the order of places (`place_mono`, `place_lt`);
  `lineColumnFrom_mono` is the same for the way back, from offsets to lines and columns. Hence a start that
  does not come after its end has a range and a location (`range_of_reached`, `locationOfRange_eq_ok`), and so
  has a span in the text (`rangeOfSpan_of_placed`, `locationOfSpan_of_placed`). `range_location` says all of
  this of every text.
-/
import Localize.Fold.CallSite
import Mathlib.Data.List.Basic

namespace Localize

namespace Syntax

/-- The order of places: line by line, and by columns within a line. -/
def Point.Before (p q : Point) : Prop := p.line < q.line ∨ p.line = q.line ∧ p.byte < q.byte

/-- A place at a character boundary of one of the lines. -/
inductive Point.In (lines : List (List Char)) : Point → Prop
  | mk (above : List (List Char)) (before after : List Char) (below : List (List Char))
      (split : lines = above ++ (before ++ after) :: below) :
      Point.In lines ⟨above.length + 1, byteSize before⟩

/-- A place in one of the lines: at a character boundary, or behind the end of the line. -/
inductive Point.Reached (lines : List (List Char)) : Point → Prop
  | mk {above : List (List Char)} {before after : List Char} {below : List (List Char)} {byte : Nat}
      (split : lines = above ++ (before ++ after) :: below)
      (column : byte = byteSize before ∨ after = [] ∧ byteSize before ≤ byte) :
      Point.Reached lines ⟨above.length + 1, byte⟩

/-- A place in front of a character of one of the lines. -/
inductive Point.AtCharacter (lines : List (List Char)) : Point → Prop
  | mk (above : List (List Char)) (before : List Char) (c : Char) (after : List Char)
      (below : List (List Char)) (split : lines = above ++ (before ++ c :: after) :: below) :
      Point.AtCharacter lines ⟨above.length + 1, byteSize before⟩

/-- A span with something in it: it begins in front of a character and ends behind its start, at a
character boundary too. -/
structure Span.Placed (lines : List (List Char)) (s : Span) : Prop where
  start : s.start.AtCharacter lines
  stop : s.stop.In lines
  ordered : s.start.Before s.stop

/-- Spans of which one ends before the other begins. -/
def Span.Apart (s t : Span) : Prop := ¬ t.start.Before s.stop ∨ ¬ s.start.Before t.stop

instance (p q : Point) : Decidable (p.Before q) := inferInstanceAs (Decidable (_ ∨ _ ∧ _))

instance (s t : Span) : Decidable (s.Apart t) := inferInstanceAs (Decidable (¬ _ ∨ ¬ _))

theorem Point.In.reached {lines : List (List Char)} {p : Point} (h : p.In lines) : p.Reached lines := by
  obtain ⟨above, before, after, below, split⟩ := h
  exact .mk split (.inl rfl)

theorem Point.AtCharacter.isIn {lines : List (List Char)} {p : Point} (h : p.AtCharacter lines) :
    p.In lines := by
  obtain ⟨above, before, c, after, below, split⟩ := h
  exact ⟨above, before, c :: after, below, split⟩

/-- The lines around one of them. -/
theorem split_of_getElem? {lines : List (List Char)} {i : Nat} {line : List Char}
    (h : lines[i]? = some line) :
    lines = lines.take i ++ line :: lines.drop (i + 1) ∧ (lines.take i).length = i := by
  obtain ⟨hi, rfl⟩ := List.getElem?_eq_some_iff.mp h
  refine ⟨?_, List.length_take_of_le (Nat.le_of_lt hi)⟩
  rw [List.getElem_cons_drop, List.take_append_drop]

theorem Point.in_iff (lines : List (List Char)) (p : Point) :
    p.In lines ↔ p.line ≠ 0 ∧ ∃ line ∈ lines[p.line - 1]?, ∃ k ≤ line.length,
      byteSize (line.take k) = p.byte := by
  constructor
  · rintro ⟨above, before, after, below, rfl⟩
    refine ⟨Nat.succ_ne_zero _, before ++ after, by simp, before.length, by simp, ?_⟩
    rw [List.take_left]
  · rintro ⟨hline, line, hmem, k, -, hbyte⟩
    obtain ⟨hsplit, hlength⟩ := split_of_getElem? hmem
    rw [← List.take_append_drop k line] at hsplit
    have h := Point.In.mk _ _ _ _ hsplit
    rw [hlength, hbyte, Nat.sub_add_cancel (Nat.pos_of_ne_zero hline)] at h
    exact h

theorem Point.atCharacter_iff (lines : List (List Char)) (p : Point) :
    p.AtCharacter lines ↔ p.line ≠ 0 ∧ ∃ line ∈ lines[p.line - 1]?, ∃ k < line.length,
      byteSize (line.take k) = p.byte := by
  constructor
  · rintro ⟨above, before, c, after, below, rfl⟩
    refine ⟨Nat.succ_ne_zero _, before ++ c :: after, by simp, before.length, by simp, ?_⟩
    rw [List.take_left]
  · rintro ⟨hline, line, hmem, k, hk, hbyte⟩
    obtain ⟨hsplit, hlength⟩ := split_of_getElem? hmem
    rw [← List.take_append_drop k line, List.drop_eq_getElem_cons hk] at hsplit
    have h := Point.AtCharacter.mk _ _ _ _ _ hsplit
    rw [hlength, hbyte, Nat.sub_add_cancel (Nat.pos_of_ne_zero hline)] at h
    exact h

instance (lines : List (List Char)) (p : Point) : Decidable (p.In lines) :=
  decidable_of_iff' _ (Point.in_iff lines p)

instance (lines : List (List Char)) (p : Point) : Decidable (p.AtCharacter lines) :=
  decidable_of_iff' _ (Point.atCharacter_iff lines p)

theorem Span.placed_iff (lines : List (List Char)) (s : Span) :
    s.Placed lines ↔ s.start.AtCharacter lines ∧ s.stop.In lines ∧ s.start.Before s.stop :=
  ⟨fun h => ⟨h.start, h.stop, h.ordered⟩, fun ⟨h, h', h''⟩ => ⟨h, h', h''⟩⟩

instance (lines : List (List Char)) (s : Span) : Decidable (s.Placed lines) :=
  decidable_of_iff' _ (Span.placed_iff lines s)

end Syntax

open Syntax

/-! ## From places to offsets -/

theorem byteSize_append (xs ys : List Char) : byteSize (xs ++ ys) = byteSize xs + byteSize ys := by
  induction xs with
  | nil => simp [byteSize]
  | cons c xs ih => simp only [List.cons_append, byteSize, ih]; omega

theorem utf8Size_pos (c : Char) : 0 < c.utf8Size := Char.utf8Size_pos c

/-- Of two starts of a line, the one with fewer bytes has fewer characters. -/
theorem length_lt_of_byteSize_lt {a b x y : List Char} (h : a ++ x = b ++ y)
    (hb : byteSize a < byteSize b) : a.length < b.length := by
  by_contra hl
  have hp : b <+: a := List.prefix_of_prefix_length_le ⟨y, h.symm⟩ ⟨x, rfl⟩ (by omega)
  obtain ⟨t, rfl⟩ := hp
  rw [byteSize_append] at hb
  omega

/-- Of two starts of a line, the one with no more bytes has no more characters. -/
theorem length_le_of_byteSize_le {a b x y : List Char} (h : a ++ x = b ++ y)
    (hb : byteSize a ≤ byteSize b) : a.length ≤ b.length := by
  by_contra hl
  have hp : b <+: a := List.prefix_of_prefix_length_le ⟨y, h.symm⟩ ⟨x, rfl⟩ (by omega)
  obtain ⟨t, rfl⟩ := hp
  rw [byteSize_append] at hb
  cases t with
  | nil => simp at hl
  | cons c t =>
    have hc := utf8Size_pos c
    rw [byteSize] at hb
    omega

theorem charsBefore_of_split (chars bytes : Nat) (before after : List Char) :
    charsBefore chars bytes (bytes + byteSize before) (before ++ after) =
      .ok (chars + before.length) := by
  induction before generalizing chars bytes with
  | nil => cases after <;> simp [charsBefore, byteSize]
  | cons c before ih =>
    have hc := utf8Size_pos c
    have hlt : ¬ bytes ≥ bytes + byteSize (c :: before) := by simp only [byteSize]; omega
    have hle : bytes + c.utf8Size ≤ bytes + byteSize (c :: before) := by
      simp only [byteSize]; omega
    have hsum : bytes + byteSize (c :: before) = bytes + c.utf8Size + byteSize before := by
      simp only [byteSize]; omega
    rw [List.cons_append, charsBefore, if_neg hlt, if_pos hle, hsum, ih]
    simp only [List.length_cons]
    congr 1
    omega

/-- A column behind a line counts all of its characters. -/
theorem charsBefore_of_past {line : List Char} {chars bytes column : Nat}
    (h : bytes + byteSize line ≤ column) :
    charsBefore chars bytes column line = .ok (chars + line.length) := by
  induction line generalizing chars bytes with
  | nil => rfl
  | cons c line ih =>
    have hc := utf8Size_pos c
    rw [byteSize] at h
    have hopen : ¬ bytes ≥ column := by omega
    have hfits : bytes + c.utf8Size ≤ column := by omega
    have hrest : charsBefore (chars + 1) (bytes + c.utf8Size) column line =
        .ok (chars + 1 + line.length) := ih (by omega)
    rw [charsBefore, if_neg hopen, if_pos hfits, hrest, List.length_cons]
    congr 1
    omega

namespace LineIndex

/-- The offset of a place: the characters of the lines above it, and those in front of it in its
own line. -/
def place (index : LineIndex) (p : Point) : Nat :=
  match index.offset p.line p.byte with
  | .ok n => n
  | .error _ => 0

/-- The offset at a column is that of the line, and as many characters further as the column counts. -/
theorem offset_of_line (index : LineIndex) {above below : List (List Char)} {line : List Char}
    (h : index.lines = above ++ line :: below) {column n : Nat}
    (hchars : charsBefore 0 0 column line = .ok n) :
    index.offset ((above.length + 1 : Nat) : Int) column = .ok (above.flatten.length + n) := by
  have hline : ¬ ((above.length + 1 : Nat) : Int) < 1 := by omega
  have hnum : ((above.length + 1 : Nat) : Int).toNat - 1 = above.length := by omega
  have hdrop : index.lines.drop above.length = line :: below := by rw [h, List.drop_left]
  have htake : index.lines.take above.length = above := by rw [h, List.take_left]
  have hcol : ¬ (column : Int) < 0 := by omega
  unfold offset
  rw [if_neg hline, hnum, hdrop, htake]
  simp only [if_neg hcol, Int.toNat_natCast, hchars]
  rfl

theorem offset_of_split (index : LineIndex) {above below : List (List Char)}
    {before after : List Char} (h : index.lines = above ++ (before ++ after) :: below) :
    index.offset ((above.length + 1 : Nat) : Int) (byteSize before : Int) =
      .ok (above.flatten.length + before.length) := by
  have hchars := charsBefore_of_split 0 0 before after
  rw [Nat.zero_add, Nat.zero_add] at hchars
  exact index.offset_of_line h hchars

section Places

variable {index : LineIndex} {p q : Point}

/-- What a place that is reached stands for: the characters of the lines above it, and those in front
of it in its own line. -/
theorem offset_of_column {above below : List (List Char)} {before after : List Char} {byte : Nat}
    (h : index.lines = above ++ (before ++ after) :: below)
    (hcolumn : byte = byteSize before ∨ after = [] ∧ byteSize before ≤ byte) :
    index.offset ((above.length + 1 : Nat) : Int) byte =
      .ok (above.flatten.length + before.length) := by
  rcases hcolumn with rfl | ⟨rfl, hpast⟩
  · exact index.offset_of_split h
  · have hchars : charsBefore 0 0 byte (before ++ []) = .ok before.length := by
      rw [List.append_nil, charsBefore_of_past (by omega), Nat.zero_add]
    exact index.offset_of_line h hchars

theorem place_of_column {above below : List (List Char)} {before after : List Char} {byte : Nat}
    (h : index.lines = above ++ (before ++ after) :: below)
    (hcolumn : byte = byteSize before ∨ after = [] ∧ byteSize before ≤ byte) :
    index.place ⟨above.length + 1, byte⟩ = above.flatten.length + before.length := by
  unfold place
  rw [offset_of_column h hcolumn]

theorem place_of_split (index : LineIndex) {above below : List (List Char)}
    {before after : List Char} (h : index.lines = above ++ (before ++ after) :: below) :
    index.place ⟨above.length + 1, byteSize before⟩ = above.flatten.length + before.length :=
  place_of_column h (.inl rfl)

/-- Every place that is reached has an offset. -/
theorem offset_of_reached (h : p.Reached index.lines) :
    index.offset p.line p.byte = .ok (index.place p) := by
  obtain ⟨split, column⟩ := h
  rw [place_of_column split column]
  exact offset_of_column split column

theorem place_le_length (h : p.Reached index.lines) : index.place p ≤ index.text.length := by
  obtain ⟨split, column⟩ := h
  rw [place_of_column split column, ← index.flatten_lines, split]
  simp only [List.flatten_append, List.flatten_cons, List.length_append]
  omega

theorem flatten_length_le {above above' below below' : List (List Char)} {line line' : List Char}
    (h : above ++ line :: below = above' ++ line' :: below') (hl : above.length < above'.length) :
    above.flatten.length + line.length ≤ above'.flatten.length := by
  have hp : above ++ [line] <+: above' := by
    have hline : above ++ [line] <+: above ++ line :: below := ⟨below, by simp⟩
    refine List.prefix_of_prefix_length_le hline ⟨line' :: below', h.symm⟩ ?_
    rw [List.length_append]
    exact hl
  obtain ⟨t, rfl⟩ := hp
  simp only [List.flatten_append, List.flatten_cons, List.flatten_nil, List.length_append,
    List.append_nil]
  omega

/-- A place that does not come after another one has an offset that is no greater. -/
theorem place_mono (hp : p.Reached index.lines) (hq : q.Reached index.lines) (h : ¬ q.Before p) :
    index.place p ≤ index.place q := by
  obtain @⟨above, before, after, below, byte, hp, hpcolumn⟩ := hp
  obtain @⟨above', before', after', below', byte', hq, hqcolumn⟩ := hq
  rw [place_of_column hp hpcolumn, place_of_column hq hqcolumn]
  have hsame := hp.symm.trans hq
  simp only [Point.Before, not_or, not_and] at h
  by_cases hline : above.length = above'.length
  · obtain ⟨rfl, htail⟩ := List.append_inj hsame hline
    have hbyte : byte ≤ byte' := Nat.le_of_not_lt (h.2 rfl)
    have hbefore : before.length ≤ before'.length := by
      rcases hqcolumn with hat | ⟨hend, -⟩
      · exact length_le_of_byteSize_le (List.cons.inj htail).1 (by omega)
      · -- behind the end all characters of the line are counted
        have hall := congrArg List.length (List.cons.inj htail).1
        rw [hend, List.append_nil, List.length_append] at hall
        omega
    omega
  · have habove := flatten_length_le hsame (by omega)
    rw [List.length_append] at habove
    omega

/-- What lies between a place in front of a character and one further on is not empty. -/
theorem place_lt (hp : p.AtCharacter index.lines) (hq : q.In index.lines) (h : p.Before q) :
    index.place p < index.place q := by
  obtain ⟨above, before, c, after, below, hp⟩ := hp
  obtain ⟨above', before', after', below', hq⟩ := hq
  rw [index.place_of_split hp, index.place_of_split hq]
  have hsame := hp.symm.trans hq
  rcases h with hline | ⟨hline, hbyte⟩
  · have habove := flatten_length_le hsame (by simpa using hline)
    rw [List.length_append, List.length_cons] at habove
    omega
  · obtain ⟨rfl, htail⟩ := List.append_inj hsame (by simpa using hline)
    have hbefore := length_lt_of_byteSize_lt (List.cons.inj htail).1 hbyte
    omega

/-! ## Spans -/

/-- The range from one place to another; a missing line or column of its end is that of the start. -/
theorem range_of_reached {endLine endByte : Option Nat} (hp : p.Reached index.lines)
    (hq : Point.Reached index.lines ⟨endLine.getD p.line, endByte.getD p.byte⟩)
    (h : ¬ Point.Before ⟨endLine.getD p.line, endByte.getD p.byte⟩ p) :
    ∃ hle, index.range p.line p.byte (endLine.map Nat.cast) (endByte.map Nat.cast) =
      .ok ⟨index.place p, index.place ⟨endLine.getD p.line, endByte.getD p.byte⟩, hle⟩ := by
  have hle := place_mono hp hq h
  have hstop := offset_of_reached hq
  generalize index.place ⟨endLine.getD p.line, endByte.getD p.byte⟩ = stop at hle hstop ⊢
  refine ⟨hle, ?_⟩
  have hof : TextRange.of? (index.place p) stop = .ok ⟨index.place p, stop, hle⟩ := by
    unfold TextRange.of?
    rw [if_neg (by omega), dif_neg (by omega)]
    simp only [Int.toNat_natCast]
  unfold range
  rw [offset_of_reached hp, Option.getD_map, Option.getD_map, hstop]
  exact hof

end Places

/-- The range of a span that has its place in the text. -/
theorem rangeOfSpan_of_placed (index : LineIndex) {s : Span} (h : s.Placed index.lines) :
    ∃ hle, index.rangeOfSpan s = .ok ⟨index.place s.start, index.place s.stop, hle⟩ := by
  have hordered : ¬ s.stop.Before s.start := by
    have hbefore := h.ordered
    simp only [Point.Before] at hbefore ⊢
    omega
  exact @range_of_reached index s.start (some s.stop.line) (some s.stop.byte) h.start.isIn.reached
    h.stop.reached hordered

end LineIndex

/-! ## From offsets to lines and columns -/

/-- Lines and columns count from one. -/
theorem one_le_lineColumnFrom (line offset : Nat) (lines : List (List Char)) :
    line ≤ (lineColumnFrom line offset lines).1 ∧ 1 ≤ (lineColumnFrom line offset lines).2 := by
  fun_induction lineColumnFrom line offset lines with
  | case1 => exact ⟨Nat.le_refl _, Nat.le_add_left _ _⟩
  | case2 => exact ⟨Nat.le_refl _, Nat.le_add_left _ _⟩
  | case3 => exact ⟨Nat.le_refl _, Nat.le_add_left _ _⟩
  | case4 line offset l rest _ _ ih => exact ⟨by omega, ih.2⟩

/-- An offset further on lies in the same line and no column before, or in a line below. -/
theorem lineColumnFrom_mono (line : Nat) {m n : Nat} (h : m ≤ n) (lines : List (List Char)) :
    (lineColumnFrom line m lines).1 < (lineColumnFrom line n lines).1 ∨
      (lineColumnFrom line m lines).1 = (lineColumnFrom line n lines).1 ∧
        (lineColumnFrom line m lines).2 ≤ (lineColumnFrom line n lines).2 := by
  fun_induction lineColumnFrom line m lines generalizing n with
  | case1 => exact .inr ⟨rfl, by simp only [lineColumnFrom]; omega⟩
  | case2 => exact .inr ⟨rfl, by simp only [lineColumnFrom]; omega⟩
  | case3 line m l rest hne hm =>
    by_cases hn : n < l.length
    · right
      rw [lineColumnFrom.eq_3 _ _ _ _ hne, if_pos hn]
      exact ⟨rfl, Nat.succ_le_succ h⟩
    · left
      have := (one_le_lineColumnFrom (line + 1) (n - l.length) rest).1
      rw [lineColumnFrom.eq_3 _ _ _ _ hne, if_neg hn]
      omega
  | case4 line m l rest hne hm ih =>
    rw [lineColumnFrom.eq_3 line n _ _ hne, if_neg (by omega)]
    exact ih (by omega)

namespace LineIndex

/-- Every range has a location, which is the line and the column of its two ends. -/
theorem locationOfRange_eq_ok (index : LineIndex) (r : TextRange) :
    ∃ l, index.locationOfRange r = .ok l ∧
      l.line = (index.lineColumn r.start).1 ∧ l.column = (index.lineColumn r.start).2 ∧
      l.endLine = (index.lineColumn r.stop).1 ∧ l.endColumn = (index.lineColumn r.stop).2 := by
  have hmono := lineColumnFrom_mono 1 r.start_le_stop index.lines
  have hpos := one_le_lineColumnFrom 1 r.start index.lines
  unfold locationOfRange lineColumn Location.of?
  simp only [Int.toNat_natCast]
  rw [dif_neg (by omega), dif_neg (by omega), dif_pos (by omega)]
  exact ⟨_, rfl, rfl, rfl, rfl, rfl⟩

/-- A span that has its place in the text has a location. -/
theorem locationOfSpan_of_placed (index : LineIndex) {s : Span} (h : s.Placed index.lines) :
    ∃ l, index.locationOfSpan s = .ok l := by
  obtain ⟨hle, hr⟩ := index.rangeOfSpan_of_placed h
  obtain ⟨l, hl, -⟩ := index.locationOfRange_eq_ok ⟨index.place s.start, index.place s.stop, hle⟩
  refine ⟨l, ?_⟩
  unfold locationOfSpan location
  unfold rangeOfSpan at hr
  rw [hr]
  exact hl

/-- The location of a span begins at the line and the column of its start. -/
theorem lineColumn_of_location {index : LineIndex} {s : Span} {l : Location}
    (h : s.Placed index.lines) (hl : index.locationOfSpan s = .ok l) :
    l.line = (index.lineColumn (index.place s.start)).1 ∧
      l.column = (index.lineColumn (index.place s.start)).2 := by
  obtain ⟨hle, hr⟩ := index.rangeOfSpan_of_placed h
  obtain ⟨l', hl', hline, hcolumn, -⟩ :=
    index.locationOfRange_eq_ok ⟨index.place s.start, index.place s.stop, hle⟩
  unfold locationOfSpan location at hl
  unfold rangeOfSpan at hr
  rw [hr] at hl
  have heq : l = l' := Except.ok.inj (hl.symm.trans hl')
  rw [heq]
  exact ⟨hline, hcolumn⟩

/-! ## Every text -/

/-- Lines and columns keep the order of offsets, those outside of the text included. -/
theorem lineColumn_mono (index : LineIndex) {m n : Int} (h : m ≤ n) :
    (index.lineColumn m).1 < (index.lineColumn n).1 ∨
      (index.lineColumn m).1 = (index.lineColumn n).1 ∧
        (index.lineColumn m).2 ≤ (index.lineColumn n).2 :=
  lineColumnFrom_mono 1 (by omega) index.lines

/-- The offsets of a text keep the order of places, those behind the end of a line included, and lie in the
text; its lines and columns keep the order of offsets. So a start that does not come after its end, or
has none, has a range and a location, and these are the offsets and the lines and columns of both. -/
theorem range_location (text : String) :
    let index := LineIndex.of text
    (∀ p q : Point, p.Reached index.lines → q.Reached index.lines → ¬ q.Before p →
      ∃ m n : Nat, index.offset p.line p.byte = .ok m ∧ index.offset q.line q.byte = .ok n ∧
        m ≤ n ∧ n ≤ text.length) ∧
    (∀ m n : Int, m ≤ n →
      (index.lineColumn m).1 < (index.lineColumn n).1 ∨
        (index.lineColumn m).1 = (index.lineColumn n).1 ∧
          (index.lineColumn m).2 ≤ (index.lineColumn n).2) ∧
    (∀ (start : Point) (endLine endByte : Option Nat),
      let stop : Point := ⟨endLine.getD start.line, endByte.getD start.byte⟩
      start.Reached index.lines →
      endLine = none ∧ endByte = none ∨ stop.Reached index.lines ∧ ¬ stop.Before start →
      ∃ r l, index.range start.line start.byte (endLine.map Nat.cast) (endByte.map Nat.cast) = .ok r ∧
        index.location start.line start.byte (endLine.map Nat.cast) (endByte.map Nat.cast) = .ok l ∧
        index.offset start.line start.byte = .ok r.start ∧
        index.offset stop.line stop.byte = .ok r.stop ∧
        l.line = (index.lineColumn r.start).1 ∧ l.column = (index.lineColumn r.start).2 ∧
        l.endLine = (index.lineColumn r.stop).1 ∧ l.endColumn = (index.lineColumn r.stop).2) := by
  intro index
  refine ⟨fun p q hp hq h => ?_, fun m n h => index.lineColumn_mono h, ?_⟩
  · have hlength := place_le_length hq
    rw [show index.text = text.toList from rfl, String.length_toList] at hlength
    exact ⟨_, _, offset_of_reached hp, offset_of_reached hq, place_mono hp hq h, hlength⟩
  · intro start endLine endByte stop hstart hend
    have hstop : stop.Reached index.lines ∧ ¬ stop.Before start := by
      rcases hend with ⟨rfl, rfl⟩ | hstop
      · exact ⟨hstart, by simp [stop, Point.Before]⟩
      · exact hstop
    obtain ⟨hle, hrange⟩ := range_of_reached hstart hstop.1 hstop.2
    obtain ⟨l, hlocation, hends⟩ := index.locationOfRange_eq_ok ⟨_, _, hle⟩
    refine ⟨_, l, hrange, ?_, offset_of_reached hstart, offset_of_reached hstop.1, hends⟩
    unfold location
    rw [hrange]
    exact hlocation

/-- A span from a character of two bytes to a column far behind the end of the line below. -/
theorem range_location_past :
    let index := LineIndex.of "é\r\nb"
    ∃ r l, index.range (1 : Nat) (0 : Nat) (some (2 : Nat)) (some (9 : Nat)) = .ok r ∧
      index.location (1 : Nat) (0 : Nat) (some (2 : Nat)) (some (9 : Nat)) = .ok l ∧
      index.offset (1 : Nat) (0 : Nat) = .ok r.start ∧ index.offset (2 : Nat) (9 : Nat) = .ok r.stop ∧
      l.endLine = (index.lineColumn r.stop).1 := by
  intro index
  have hlines : index.lines = [['é', '\r', '\n'], ['b']] := by decide
  have hstart : Point.Reached index.lines ⟨1, 0⟩ :=
    @Point.Reached.mk _ [] [] ['é', '\r', '\n'] [['b']] 0 hlines (.inl rfl)
  have hstop : Point.Reached index.lines ⟨2, 9⟩ :=
    @Point.Reached.mk _ [['é', '\r', '\n']] ['b'] [] [] 9 hlines (.inr ⟨rfl, by decide⟩)
  obtain ⟨r, l, hrange, hlocation, hfrom, hto, -, -, hline, -⟩ :=
    (range_location "é\r\nb").2.2 ⟨1, 0⟩ (some 2) (some 9) hstart (.inr ⟨hstop, by decide⟩)
  exact ⟨r, l, hrange, hlocation, hfrom, hto, hline⟩

end LineIndex

end Localize
