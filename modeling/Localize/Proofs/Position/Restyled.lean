/-
  Texts whose line feeds are written as another terminator. A text without carriage returns keeps its
  lines then, each with the other terminator (`splitLines_restyle`). So a place in front of a terminator
  has the same line and the same column, while its offset is shifted by what the terminators above it
  have grown (`place_restyled`). For a span this means another range and the same location
  (`rangeOfSpan_restyled`, `locationOfSpan_restyled`).
-/
import Localize.Proofs.Position.Lines

namespace Localize

open Syntax

/-- A terminator other than the line feed: with a carriage return in front of it, or that alone. -/
inductive LineStyle where
  | pair
  | carriage
deriving DecidableEq, Repr

namespace LineStyle

/-- What stands for a line feed. -/
def terminator : LineStyle → List Char
  | pair => ['\r', '\n']
  | carriage => ['\r']

/-- The text with each line feed written in a style. -/
def restyle (style : LineStyle) (text : List Char) : List Char :=
  text.flatMap fun c => if c = '\n' then style.terminator else [c]

/-- How many characters the first `n` ones of a text become. -/
def shift (style : LineStyle) (text : List Char) (n : Nat) : Nat := (style.restyle (text.take n)).length

variable (style : LineStyle)

/-! ## Characters -/

theorem restyle_append (xs ys : List Char) :
    style.restyle (xs ++ ys) = style.restyle xs ++ style.restyle ys := List.flatMap_append

theorem restyle_feed (text : List Char) :
    style.restyle ('\n' :: text) = style.terminator ++ style.restyle text := by simp [restyle]

theorem restyle_cons {c : Char} (h : c ≠ '\n') (text : List Char) :
    style.restyle (c :: text) = c :: style.restyle text := by simp [restyle, h]

theorem terminator_eq : ∃ rest, style.terminator = '\r' :: rest := by
  cases style with
  | pair => exact ⟨['\n'], rfl⟩
  | carriage => exact ⟨[], rfl⟩

theorem restyle_of_not_mem {text : List Char} (h : '\n' ∉ text) : style.restyle text = text := by
  induction text with
  | nil => rfl
  | cons c text ih =>
    obtain ⟨hc, htext⟩ : c ≠ '\n' ∧ '\n' ∉ text := by simpa [eq_comm] using h
    rw [style.restyle_cons hc, ih htext]

theorem restyle_flatten (lines : List (List Char)) :
    style.restyle lines.flatten = (lines.map style.restyle).flatten := by
  induction lines with
  | nil => rfl
  | cons line lines ih => simp only [List.flatten_cons, List.map_cons, restyle_append, ih]

/-- A line feed stands behind a carriage return only. -/
theorem head?_restyle (text : List Char) : (style.restyle text).head? ≠ some '\n' := by
  cases text with
  | nil => exact nofun
  | cons c text =>
    by_cases hc : c = '\n'
    · obtain ⟨rest, hterminator⟩ := style.terminator_eq
      rw [hc, restyle_feed, hterminator]
      exact nofun
    · rw [style.restyle_cons hc]
      simpa using hc

theorem length_le_restyle (text : List Char) : text.length ≤ (style.restyle text).length := by
  induction text with
  | nil => exact Nat.le_refl _
  | cons c text ih =>
    by_cases hc : c = '\n'
    · obtain ⟨rest, hterminator⟩ := style.terminator_eq
      rw [hc, restyle_feed, hterminator]
      simp only [List.length_append, List.length_cons]
      omega
    · rw [style.restyle_cons hc]
      simpa using ih

theorem mem_restyle {text : List Char} {c : Char} (hreturn : c ≠ '\r') (hfeed : c ≠ '\n') :
    c ∈ style.restyle text ↔ c ∈ text := by
  have hterminator : c ∉ style.terminator := by
    cases style <;> simp [terminator, hreturn, hfeed]
  simp only [restyle, List.mem_flatMap]
  constructor
  · rintro ⟨d, hd, hc⟩
    split at hc
    · exact absurd hc hterminator
    · rwa [List.mem_singleton.mp hc]
  · intro hc
    exact ⟨c, hc, by simp [hfeed]⟩

/-! ## Offsets -/

theorem shift_append (xs ys : List Char) :
    style.shift (xs ++ ys) xs.length = (style.restyle xs).length := by
  rw [shift, List.take_left]

/-- Between two offsets lies what the characters between them become. -/
theorem shift_add (text : List Char) (m k : Nat) :
    style.shift text (m + k) = style.shift text m + (style.restyle ((text.drop m).take k)).length := by
  rw [shift, List.take_add, restyle_append, List.length_append, shift]

theorem shift_mono (text : List Char) {m n : Nat} (h : m ≤ n) :
    style.shift text m ≤ style.shift text n := by
  obtain ⟨k, rfl⟩ := Nat.exists_eq_add_of_le h
  rw [shift_add]
  exact Nat.le_add_right _ _

/-- Within a text the order of offsets can be told from what they are shifted to. -/
theorem shift_lt_iff (text : List Char) {m n : Nat} (hn : n ≤ text.length) :
    style.shift text m < style.shift text n ↔ m < n := by
  constructor
  · intro h
    by_contra hle
    have := style.shift_mono text (Nat.le_of_not_lt hle)
    omega
  · intro h
    obtain ⟨k, rfl⟩ := Nat.exists_eq_add_of_le (Nat.le_of_lt h)
    have hbetween := style.length_le_restyle ((text.drop m).take k)
    rw [List.length_take, List.length_drop] at hbetween
    rw [shift_add]
    omega

theorem take_shift (text : List Char) (n : Nat) :
    (style.restyle text).take (style.shift text n) = style.restyle (text.take n) := by
  conv_lhs => rw [← List.take_append_drop n text, restyle_append]
  rw [List.take_append_drop, shift, List.take_left]

theorem drop_shift (text : List Char) (n : Nat) :
    (style.restyle text).drop (style.shift text n) = style.restyle (text.drop n) := by
  conv_lhs => rw [← List.take_append_drop n text, restyle_append]
  rw [List.take_append_drop, shift, List.drop_left]

theorem shift_le_length (text : List Char) (n : Nat) :
    style.shift text n ≤ (style.restyle text).length := by
  conv_rhs => rw [← List.take_append_drop n text, restyle_append, List.length_append]
  exact Nat.le_add_right _ _

end LineStyle

/-- The range of the same characters in another style. -/
def TextRange.restyled (style : LineStyle) (text : List Char) (r : TextRange) : TextRange where
  start := style.shift text r.start
  stop := style.shift text r.stop
  start_le_stop := style.shift_mono text r.start_le_stop

/-! ## Lines -/

/-- A line without its terminator. -/
def lineBody (line : List Char) : List Char := line.takeWhile fun c => c ≠ '\r' && c ≠ '\n'

theorem unbroken_lineBody (line : List Char) : Unbroken (lineBody line) := by
  have h : ∀ c ∈ lineBody line, c ≠ '\r' ∧ c ≠ '\n' := by
    intro c hc
    simpa using List.all_eq_true.mp List.all_takeWhile c hc
  exact ⟨fun hc => (h _ hc).1 rfl, fun hc => (h _ hc).2 rfl⟩

theorem lineBody_restyle (style : LineStyle) (line : List Char) :
    lineBody (style.restyle line) = lineBody line := by
  induction line with
  | nil => rfl
  | cons c line ih =>
    by_cases hc : c = '\n'
    · obtain ⟨rest, hterminator⟩ := style.terminator_eq
      rw [hc, style.restyle_feed, hterminator]
      rfl
    · rw [style.restyle_cons hc]
      unfold lineBody at ih ⊢
      rw [List.takeWhile_cons, List.takeWhile_cons, ih]

theorem Delimited.restyle (style : LineStyle) {lines : List (List Char)} (h : Delimited lines)
    (hreturn : '\r' ∉ lines.flatten) : Delimited (lines.map style.restyle) := by
  induction h with
  | @last body h =>
    rw [List.map_singleton, style.restyle_of_not_mem h.2]
    exact .last h
  | @feed body rest h hrest ih =>
    have hrest' : '\r' ∉ rest.flatten := fun hc => hreturn (by simp [hc])
    have hline : style.restyle (body ++ ['\n']) = body ++ style.terminator := by
      rw [style.restyle_append, style.restyle_of_not_mem h.2, style.restyle_feed]
      exact congrArg (body ++ ·) (List.append_nil _)
    rw [List.map_cons, hline]
    cases style with
    | pair => exact .pair h (ih hrest')
    | carriage =>
      refine .carriage h (ih hrest') ?_
      rw [← LineStyle.restyle_flatten]
      exact LineStyle.head?_restyle _ _
  | @pair body rest => exact absurd (by simp) hreturn
  | @carriage body rest => exact absurd (by simp) hreturn

/-- A text without carriage returns has the same lines in every style, up to their terminators. -/
theorem splitLines_restyle (style : LineStyle) {text : List Char} (h : '\r' ∉ text) :
    splitLines (style.restyle text) = (splitLines text).map style.restyle := by
  symm
  rw [eq_splitLines_iff, ← style.restyle_flatten, flatten_splitLines]
  exact ⟨(delimited_splitLines text).restyle style (by rwa [flatten_splitLines]), rfl⟩

/-! ## Places in front of terminators -/

section Places

variable {lines : List (List Char)}

/-- Only the last line has no terminator. -/
theorem Delimited.below_eq_nil {above below : List (List Char)} {line : List Char}
    (h : Delimited (above ++ line :: below)) (hline : Unbroken line) : below = [] := by
  induction above with
  | nil =>
    cases h with
    | last => rfl
    | feed => exact absurd (by simp) hline.2
    | pair => exact absurd (by simp) hline.2
    | carriage => exact absurd (by simp) hline.1
  | cons first above ih =>
    have hrest : Delimited (above ++ line :: below) := by
      rw [List.cons_append] at h
      generalize hlines : above ++ line :: below = rest at h
      cases h with
      | last => simp at hlines
      | feed _ hrest => exact hlines ▸ hrest
      | pair _ hrest => exact hlines ▸ hrest
      | carriage _ hrest => exact hlines ▸ hrest
    exact ih hrest

/-- The line around a body begins with it. -/
theorem split_of_bodies {above' below' : List (List Char)} {body : List Char}
    (h : lines.map lineBody = above' ++ body :: below') :
    ∃ above terminator below, lines = above ++ (body ++ terminator) :: below ∧
      above.length = above'.length ∧ Unbroken body := by
  obtain ⟨above, rest, rfl, rfl, hrest⟩ := List.map_eq_append_iff.mp h
  obtain ⟨line, below, rfl, rfl, rfl⟩ := List.map_eq_cons_iff.mp hrest
  refine ⟨above, line.dropWhile fun c => c ≠ '\r' && c ≠ '\n', below, ?_, ?_, unbroken_lineBody line⟩
  · rw [lineBody, List.takeWhile_append_dropWhile]
  · rw [List.length_map]

/-- A place in the body of a line has characters of the body in front of it, and something behind it
unless the text ends there. -/
theorem exists_split_of_in (h : Delimited lines) {p : Point} (hp : p.In (lines.map lineBody)) :
    ∃ above before after below, lines = above ++ (before ++ after) :: below ∧ '\n' ∉ before ∧
      (after ≠ [] ∨ below = []) ∧ p = ⟨above.length + 1, byteSize before⟩ := by
  obtain ⟨above', before, after', below', hsplit⟩ := hp
  obtain ⟨above, terminator, below, hlines, hlength, hbody⟩ := split_of_bodies hsplit
  refine ⟨above, before, after' ++ terminator, below, ?_, ?_, ?_, by rw [hlength]⟩
  · rw [hlines, List.append_assoc]
  · exact fun hc => hbody.2 (List.mem_append_left _ hc)
  · by_cases hterminator : terminator = []
    · -- the line is its body, so there is none below
      rw [hlines, hterminator, List.append_nil] at h
      exact .inr (h.below_eq_nil hbody)
    · exact .inl (List.append_ne_nil_of_right_ne_nil _ hterminator)

theorem Syntax.Point.In.whole {p : Point} (h : p.In (lines.map lineBody)) : p.In lines := by
  obtain ⟨above', before, after', below', hsplit⟩ := h
  obtain ⟨above, terminator, below, hlines, hlength, -⟩ := split_of_bodies hsplit
  rw [← hlength]
  exact .mk above before (after' ++ terminator) below (by rw [hlines, List.append_assoc])

theorem Syntax.Point.AtCharacter.whole {p : Point} (h : p.AtCharacter (lines.map lineBody)) :
    p.AtCharacter lines := by
  obtain ⟨above', before, c, after', below', hsplit⟩ := h
  obtain ⟨above, terminator, below, hlines, hlength, -⟩ := split_of_bodies hsplit
  rw [← hlength]
  exact .mk above before c (after' ++ terminator) below
    (by rw [hlines, List.append_assoc, List.cons_append])

/-- What has its place in the bodies of lines has it in the lines. -/
theorem Syntax.Span.Placed.whole {s : Span} (h : s.Placed (lines.map lineBody)) : s.Placed lines :=
  ⟨h.start.whole, h.stop.whole, h.ordered⟩

end Places

/-- A text with its lines, and the same text in another style. -/
structure LineIndex.Restyled (style : LineStyle) (index index' : LineIndex) : Prop where
  delimited : Delimited index.lines
  lines : index'.lines = index.lines.map style.restyle

namespace LineIndex

variable {style : LineStyle} {index index' : LineIndex}

/-- A place in the body of a line is shifted with the text, and has the same line and column. -/
theorem place_restyled (h : Restyled style index index') {p : Point}
    (hp : p.In (index.lines.map lineBody)) :
    index'.place p = style.shift index.text (index.place p) ∧
      index'.lineColumn (index'.place p) = index.lineColumn (index.place p) := by
  obtain ⟨above, before, after, below, hsplit, hbefore, hplace, rfl⟩ := exists_split_of_in h.delimited hp
  have hsplit' : index'.lines =
      above.map style.restyle ++ (before ++ style.restyle after) :: below.map style.restyle := by
    rw [h.lines, hsplit, List.map_append, List.map_cons, style.restyle_append,
      style.restyle_of_not_mem hbefore]
  have hplace' : style.restyle after ≠ [] ∨ below.map style.restyle = [] := by
    rcases hplace with hafter | rfl
    · left
      have hlength := style.length_le_restyle after
      have hpos := List.length_pos_of_ne_nil hafter
      apply List.ne_nil_of_length_pos
      omega
    · exact .inr rfl
  have hshift : style.shift index.text (above.flatten.length + before.length) =
      (above.map style.restyle).flatten.length + before.length := by
    have htext : index.text = (above.flatten ++ before) ++ (after ++ below.flatten) := by
      rw [← index.flatten_lines, hsplit]
      simp
    rw [htext, ← List.length_append, style.shift_append, style.restyle_append, style.restyle_flatten,
      style.restyle_of_not_mem hbefore, List.length_append]
  have hcolumn := index'.lineColumn_of_split hsplit' hplace'
  have hpoint := index'.place_of_split hsplit'
  rw [List.length_map] at hcolumn hpoint
  rw [hpoint, index.place_of_split hsplit, hshift]
  exact ⟨rfl, hcolumn.trans (index.lineColumn_of_split hsplit hplace).symm⟩

/-- The bodies of the lines are the same in every style. -/
theorem Restyled.bodies (h : Restyled style index index') :
    index'.lines.map lineBody = index.lines.map lineBody := by
  rw [h.lines, List.map_map]
  exact List.map_congr_left fun line _ => lineBody_restyle style line

variable {span : Span}

/-- The range of a span becomes that of the same characters. -/
theorem rangeOfSpan_restyled (h : Restyled style index index')
    (hspan : span.Placed (index.lines.map lineBody)) :
    ∃ r, index.rangeOfSpan span = .ok r ∧
      index'.rangeOfSpan span = .ok (r.restyled style index.text) := by
  have hspan' : span.Placed (index'.lines.map lineBody) := by rwa [h.bodies]
  obtain ⟨hle, hrange⟩ := index.rangeOfSpan_of_placed hspan.whole
  obtain ⟨hle', hrange'⟩ := index'.rangeOfSpan_of_placed hspan'.whole
  refine ⟨_, hrange, ?_⟩
  have hstart := (place_restyled h hspan.start.isIn).1
  have hstop := (place_restyled h hspan.stop).1
  simp only [hrange', TextRange.restyled, hstart, hstop]

/-- The location of a span does not depend on the style. -/
theorem locationOfSpan_restyled (h : Restyled style index index')
    (hspan : span.Placed (index.lines.map lineBody)) :
    index'.locationOfSpan span = index.locationOfSpan span := by
  have hspan' : span.Placed (index'.lines.map lineBody) := by rwa [h.bodies]
  obtain ⟨hle, hrange⟩ := index.rangeOfSpan_of_placed hspan.whole
  obtain ⟨hle', hrange'⟩ := index'.rangeOfSpan_of_placed hspan'.whole
  have hstart := (place_restyled h hspan.start.isIn).2
  have hstop := (place_restyled h hspan.stop).2
  unfold rangeOfSpan at hrange hrange'
  unfold locationOfSpan location
  rw [hrange, hrange']
  show index'.locationOfRange _ = index.locationOfRange _
  unfold locationOfRange
  rw [hstart, hstop]

end LineIndex

end Localize
