/-
  Spellings of a key. A segment may be written behind a dot, or in brackets if it consists of word
  characters; the first one may also stand alone. What is asked of the segments is that there is neither a
  dot nor a bracketed index in them (`Simple`), so there may be stray brackets. Such a bracket is kept in
  front of every continuation (`dottedFrom_unindexed`), since none begins with a word character or a
  closing bracket. So all continuations of a path come to the same text with dots
  (`dotted_continues`), and a spelling of a path has that path for its segments (`segments_of_spells`).
-/
import Localize.Source.Key

namespace Localize.Key

open Localize.Text

/-! ## Spellings -/

/-- Word characters, one at least. -/
def IsIndex (cs : List Char) : Prop := cs ≠ [] ∧ ∀ c ∈ cs, isWord c = true

/-- A text of which no index in brackets is a part. -/
def Unindexed (cs : List Char) : Prop :=
  ∀ front index back, cs = front ++ '[' :: (index ++ ']' :: back) → ¬ IsIndex index

/-- A segment without a dot and without an index in brackets. -/
structure Simple (s : String) : Prop where
  undotted : '.' ∉ s.toList
  unindexed : Unindexed s.toList

/-- The ways to write segments one after the other, each behind a dot or in brackets. -/
inductive Continues : List String → List Char → Prop
  | nil : Continues [] []
  | dotted (s : String) {rest : List String} {text : List Char} (h : Continues rest text) :
      Continues (s :: rest) ('.' :: (s.toList ++ text))
  | bracketed {s : String} {rest : List String} {text : List Char} (index : IsIndex s.toList)
      (h : Continues rest text) : Continues (s :: rest) ('[' :: (s.toList ++ ']' :: text))

/-- The ways to write a path: its first segment may stand alone, or be written like the later ones. -/
inductive Spells : List String → String → Prop
  | alone {s : String} {rest : List String} {key : String} {text : List Char}
      (h : Continues rest text) (hkey : key.toList = s.toList ++ text) : Spells (s :: rest) key
  | marked {path : List String} {key : String} (h : Continues path key.toList) : Spells path key

theorem Simple.of_unclosed {s : String} (hdot : '.' ∉ s.toList) (hclosing : ']' ∉ s.toList) : Simple s where
  undotted := hdot
  unindexed := fun front index back heq => absurd (heq ▸ by simp) hclosing

/-! ## Brackets -/

theorem Unindexed.of_append (front : List Char) {cs : List Char} (h : Unindexed (front ++ cs)) : Unindexed cs := by
  rintro start index back rfl
  exact h (front ++ start) index back (by rw [List.append_assoc])

/-- A text that an index cannot go on with: it is empty, or begins with a dot or an opening bracket. -/
def Edge (text : List Char) : Prop := ∀ c ∈ text.head?, c = '.' ∨ c = '['

theorem Continues.edge {path : List String} {text : List Char} (h : Continues path text) : Edge text := by
  cases h with
  | nil => nofun
  | dotted s h =>
    rintro c ⟨⟩
    exact .inl rfl
  | bracketed index h =>
    rintro c ⟨⟩
    exact .inr rfl

theorem isWord_dot : isWord '.' = false := by decide

theorem isWord_opening : isWord '[' = false := by decide

theorem isWord_closing : isWord ']' = false := by decide

/-- What was read of an index that is not closed yet. -/
def pending : Option (List Char) → List Char
  | none => []
  | some word => '[' :: word.reverse

/-- An index that is never closed is kept as it is written. -/
theorem dottedFrom_edge (index : Option (List Char)) {rest : List Char} (h : Edge rest) :
    dottedFrom index rest = pending index ++ dotted rest := by
  unfold dotted
  cases index with
  | none => rfl
  | some word =>
    cases rest with
    | nil => simp [dottedFrom, pending]
    | cons c rest =>
      rcases h c rfl with rfl | rfl
      · simp [dottedFrom, pending, isWord_dot]
      · simp [dottedFrom, pending, isWord_opening]

/-- A text without an index is kept in front of every edge. The index that was begun before it belongs to
the text. -/
theorem dottedFrom_unindexed {cs : List Char} {index : Option (List Char)} {rest : List Char}
    (hrest : Edge rest) (hindex : ∀ word ∈ index, ∀ c ∈ word, isWord c = true)
    (h : Unindexed (pending index ++ cs)) :
    dottedFrom index (cs ++ rest) = pending index ++ (cs ++ dotted rest) := by
  induction cs generalizing index with
  | nil => exact dottedFrom_edge index hrest
  | cons c cs ih =>
    cases index with
    | none =>
      by_cases hopening : c = '['
      · subst hopening
        have hnext := @ih (some []) (by simp) h
        simpa [dottedFrom, pending] using hnext
      · have hnext := @ih none (by simp) (Unindexed.of_append [c] h)
        simpa [dottedFrom, hopening, pending] using hnext
    | some word =>
      have hword := hindex word rfl
      by_cases hc : isWord c = true
      · have hnext := @ih (some (c :: word)) (by simpa [hc] using hword)
          (by simpa [pending] using h)
        simpa [dottedFrom, hc, pending] using hnext
      · have hclosed : (c = ']' && !word.isEmpty) = false := by
          refine Bool.eq_false_iff.mpr fun hclosed => ?_
          simp only [Bool.and_eq_true, decide_eq_true_eq, Bool.not_eq_true',
            List.isEmpty_eq_false_iff] at hclosed
          obtain ⟨rfl, hne⟩ := hclosed
          refine h [] word.reverse cs rfl ⟨by simpa using hne, ?_⟩
          simpa using hword
        by_cases hopening : c = '['
        · subst hopening
          have hnext := @ih (some []) (by simp) (Unindexed.of_append (pending (some word)) h)
          simpa [dottedFrom, hc, pending] using hnext
        · have hlater : Unindexed cs :=
            Unindexed.of_append (pending (some word) ++ [c]) (by simpa using h)
          have hnext := @ih none (by simp) hlater
          simpa [dottedFrom, hc, hclosed, hopening, pending] using hnext

/-- A segment is kept in front of a continuation. -/
theorem dotted_simple {s : String} {rest : List Char} (h : Simple s) (hrest : Edge rest) :
    dotted (s.toList ++ rest) = s.toList ++ dotted rest :=
  @dottedFrom_unindexed s.toList none rest hrest nofun h.unindexed

/-- An index that is closed gives a dot in front of it. -/
theorem dottedFrom_index {cs word : List Char} (hne : word ++ cs ≠ [])
    (h : ∀ c ∈ cs, isWord c = true) (rest : List Char) :
    dottedFrom (some word) (cs ++ ']' :: rest) = '.' :: (word.reverse ++ (cs ++ dotted rest)) := by
  induction cs generalizing word with
  | nil =>
    have hword : word.isEmpty = false := by simpa using hne
    simp [dottedFrom, isWord_closing, hword, dotted]
  | cons c cs ih =>
    rw [List.forall_mem_cons] at h
    have hnext := @ih (c :: word) (by simp) h.2
    simpa [dottedFrom, h.1] using hnext

theorem dotted_bracketed {s : String} (h : IsIndex s.toList) (rest : List Char) :
    dotted ('[' :: (s.toList ++ ']' :: rest)) = '.' :: (s.toList ++ dotted rest) := by
  have hindex := @dottedFrom_index s.toList [] h.1 h.2 rest
  simpa [dotted, dottedFrom] using hindex

/-- Each continuation of a path comes to a dot in front of each segment. -/
theorem dotted_continues {path : List String} {text : List Char} (h : Continues path text)
    (hsimple : ∀ s ∈ path, Simple s) : dotted text = path.flatMap fun s => '.' :: s.toList := by
  induction h with
  | nil => rfl
  | @dotted s rest text h ih =>
    rw [List.forall_mem_cons] at hsimple
    have hdot : dotted ('.' :: (s.toList ++ text)) = '.' :: dotted (s.toList ++ text) := by
      simp [dotted, dottedFrom]
    rw [hdot, dotted_simple hsimple.1 h.edge, ih hsimple.2]
    simp
  | @bracketed s rest text index h ih =>
    rw [List.forall_mem_cons] at hsimple
    rw [dotted_bracketed index, ih hsimple.2]
    simp

/-! ## Dots -/

theorem splitDotsFrom_append {cs : List Char} (h : '.' ∉ cs) (part rest : List Char) :
    splitDotsFrom part (cs ++ rest) = splitDotsFrom (cs.reverse ++ part) rest := by
  induction cs generalizing part with
  | nil => rfl
  | cons c cs ih =>
    have hc : c ≠ '.' := fun hc => h (hc ▸ List.mem_cons_self)
    have hnext := ih (fun hcs => h (List.mem_cons_of_mem _ hcs)) (c :: part)
    simpa [splitDotsFrom, hc] using hnext

theorem splitDotsFrom_dotted {path : List String} (h : ∀ s ∈ path, Simple s) (part : List Char) :
    splitDotsFrom part (path.flatMap fun s => '.' :: s.toList) =
      part.reverse :: path.map String.toList := by
  induction path generalizing part with
  | nil => rfl
  | cons s rest ih =>
    rw [List.forall_mem_cons] at h
    rw [List.flatMap_cons, List.cons_append, splitDotsFrom, if_pos rfl,
      splitDotsFrom_append h.1.undotted, List.append_nil, ih h.2, List.reverse_reverse, List.map_cons]

theorem withoutLeadingDot_append {cs : List Char} (hne : cs ≠ []) (h : '.' ∉ cs) (rest : List Char) :
    withoutLeadingDot (cs ++ rest) = cs ++ rest := by
  rcases cs with _ | ⟨c, cs⟩
  · exact absurd rfl hne
  · have hc : c ≠ '.' := fun hc => h (hc ▸ List.mem_cons_self)
    simp [withoutLeadingDot, hc]

/-! ## Segments -/

/-- With its dots, and without one in front, a spelling is the first segment and a dot in front of each
later one. -/
theorem withoutLeadingDot_dotted {s : String} {rest : List String} {key : String} (hne : s ≠ "")
    (hsimple : ∀ t ∈ s :: rest, Simple t) (h : Spells (s :: rest) key) :
    withoutLeadingDot (dotted key.toList) = s.toList ++ rest.flatMap fun t => '.' :: t.toList := by
  rw [List.forall_mem_cons] at hsimple
  cases h with
  | alone h hkey =>
    rw [hkey, dotted_simple hsimple.1 h.edge, dotted_continues h hsimple.2]
    exact withoutLeadingDot_append (by simpa using hne) hsimple.1.undotted _
  | marked h =>
    rw [dotted_continues h (List.forall_mem_cons.mpr hsimple)]
    rfl

theorem segments_spelled {s : String} {rest : List String} {key : String} (hne : s ≠ "")
    (hsimple : ∀ t ∈ s :: rest, Simple t) (h : Spells (s :: rest) key) : segments key = s :: rest := by
  have hsimple' := List.forall_mem_cons.mp hsimple
  unfold segments
  rw [withoutLeadingDot_dotted hne hsimple h, splitDotsFrom_append hsimple'.1.undotted,
    splitDotsFrom_dotted hsimple'.2]
  simp

/-- A path of segments without dots and bracketed indexes, the first one not empty, is what every spelling of
it has for segments: each later segment is written behind a dot, or in brackets if it consists of word
characters, and so is the first one unless it stands alone. So all spellings have the same segments. -/
theorem segments_of_spells {s : String} {rest : List String} {key : String} (hne : s ≠ "")
    (hsimple : ∀ t ∈ s :: rest, Simple t) (h : Spells (s :: rest) key) :
    segments key = s :: rest ∧ ∀ other, Spells (s :: rest) other → segments other = segments key := by
  have hkey := segments_spelled hne hsimple h
  exact ⟨hkey, fun other hother => (segments_spelled hne hsimple hother).trans hkey.symm⟩

/-- A path with a stray bracket in front of a bracketed segment, and with an empty segment. -/
def strayPath : List String := ["menu[", "file", "", "0"]

/-- The path with a dot in front and two segments in brackets. -/
theorem segments_of_spells_stray :
    "menu[" ≠ "" ∧ (∀ t ∈ strayPath, Simple t) ∧ Spells strayPath ".menu[[file].[0]" ∧
      segments ".menu[[file].[0]" = strayPath ∧
      segments "menu[.file..0" = segments ".menu[[file].[0]" := by
  have hplain : ∀ t ∈ strayPath, '.' ∉ t.toList ∧ ']' ∉ t.toList := by decide
  have hsimple : ∀ t ∈ strayPath, Simple t := fun t ht =>
    .of_unclosed (hplain t ht).1 (hplain t ht).2
  have hfile : IsIndex "file".toList := ⟨by decide, List.all_eq_true.mp (by decide)⟩
  have hzero : IsIndex "0".toList := ⟨by decide, List.all_eq_true.mp (by decide)⟩
  have hcontinues := Continues.dotted "" (Continues.bracketed hzero .nil)
  have hspells : Spells strayPath ".menu[[file].[0]" :=
    .marked (Continues.dotted "menu[" (.bracketed hfile hcontinues))
  have hdotted : Spells strayPath "menu[.file..0" :=
    .alone (.dotted "file" (.dotted "" (.dotted "0" .nil))) rfl
  obtain ⟨hpath, hall⟩ := segments_of_spells (by decide) hsimple hspells
  exact ⟨by decide, hsimple, hspells, hpath, hall _ hdotted⟩

end Localize.Key
