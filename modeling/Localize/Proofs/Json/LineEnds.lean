/-
  Ends of lines in JSON texts. An end of a line stands only where blanks do, between the parts of values and
  never inside of a word, a number or a string. So what a text stands for, and the integer that it is
  read up to, stay when other characters end its lines (`Relined`), and unifying these ends changes
  nothing (`isText_unifyLineEnds_iff`, `isOverlong_unifyLineEnds_iff`).
-/
import Localize.Proofs.Json.Reading
import Localize.Text.Split

namespace Localize.Json

open Text (hexNumber? hexValue? unifyLineEnds)

/-- A character that ends a line, alone or with another one. -/
def IsBreak (c : Char) : Prop := c = '\n' ∨ c = '\r'

/-- Texts that differ in the characters that end their lines. -/
inductive Relined : List Char → List Char → Prop
  | nil : Relined [] []
  | same (c : Char) {cs ds : List Char} (h : Relined cs ds) : Relined (c :: cs) (c :: ds)
  | ends {gap gap' cs ds : List Char} (hne : gap ≠ []) (hne' : gap' ≠ []) (hgap : ∀ c ∈ gap, IsBreak c)
      (hgap' : ∀ c ∈ gap', IsBreak c) (h : Relined cs ds) : Relined (gap ++ cs) (gap' ++ ds)

theorem Relined.symm {cs ds : List Char} (h : Relined cs ds) : Relined ds cs := by
  induction h with
  | nil => exact .nil
  | same c _ ih => exact .same c ih
  | ends hne hne' hgap hgap' _ ih => exact .ends hne' hne hgap' hgap ih

theorem relined_unifyLineEnds (cs : List Char) : Relined cs (unifyLineEnds cs) := by
  fun_induction unifyLineEnds cs with
  | case1 => exact .nil
  | case2 rest ih =>
    exact @Relined.ends ['\r', '\n'] ['\n'] _ _ (by simp) (by simp) (by simp [IsBreak])
      (by simp [IsBreak]) ih
  | case3 c rest _ ih =>
    split
    · rename_i hc
      subst hc
      exact @Relined.ends ['\r'] ['\n'] _ _ (by simp) (by simp) (by simp [IsBreak]) (by simp [IsBreak]) ih
    · exact .same c ih

theorem isBlank_of_isBreak {c : Char} (h : IsBreak c) : isBlank c = true := by
  rcases h with rfl | rfl <;> decide

/-! ## Peeling -/

/-- A character that ends no line stays at the front. -/
theorem Relined.cons {c : Char} {cs ds : List Char} (h : Relined (c :: cs) ds) (hc : ¬ IsBreak c) :
    ∃ tail, ds = c :: tail ∧ Relined cs tail := by
  generalize hfront : c :: cs = front at h
  cases h with
  | nil => cases hfront
  | same d h =>
    cases hfront
    exact ⟨_, rfl, h⟩
  | @ends gap gap' cs' ds hne _ hgap _ h =>
    rcases gap with _ | ⟨d, gap⟩
    · exact absurd rfl hne
    · cases hfront
      exact absurd (hgap _ List.mem_cons_self) hc

theorem Relined.append {body rest ds : List Char} (h : Relined (body ++ rest) ds)
    (hbody : ∀ c ∈ body, ¬ IsBreak c) : ∃ tail, ds = body ++ tail ∧ Relined rest tail := by
  induction body generalizing ds with
  | nil => exact ⟨ds, rfl, h⟩
  | cons c body ih =>
    rw [List.forall_mem_cons] at hbody
    obtain ⟨tail, rfl, htail⟩ := h.cons hbody.1
    obtain ⟨tail, rfl, hrest⟩ := ih htail hbody.2
    exact ⟨tail, rfl, hrest⟩

/-- Blanks stay blanks in front of something that is none. -/
theorem Relined.blanks {gap rest ds : List Char} (h : Relined (gap ++ rest) ds) (hgap : IsBlanks gap)
    (hrest : ∀ c ∈ rest.head?, isBlank c = false) :
    ∃ gap' tail, ds = gap' ++ tail ∧ IsBlanks gap' ∧ Relined rest tail := by
  generalize hfront : gap ++ rest = front at h
  induction h generalizing gap with
  | nil =>
    obtain ⟨-, rfl⟩ := List.append_eq_nil_iff.mp hfront
    exact ⟨[], [], rfl, nofun, .nil⟩
  | @same c cs ds h ih =>
    rcases gap with _ | ⟨d, gap⟩
    · obtain rfl : rest = c :: cs := hfront
      exact ⟨[], c :: ds, rfl, nofun, .same c h⟩
    · obtain ⟨rfl, hcs⟩ := List.cons.inj hfront
      obtain ⟨hd, hgap⟩ := List.forall_mem_cons.mp hgap
      obtain ⟨gap', tail, rfl, hgap', htail⟩ := ih hgap hcs
      exact ⟨d :: gap', tail, rfl, List.forall_mem_cons.mpr ⟨hd, hgap'⟩, htail⟩
  | @ends breaks breaks' cs ds hne hne' hbreaks hbreaks' h ih =>
    have hblanks : IsBlanks breaks' := fun c hc => isBlank_of_isBreak (hbreaks' c hc)
    -- The ends of lines cannot go on into what is no blank, so they lie within the blanks.
    rcases List.append_eq_append_iff.mp hfront with ⟨more, rfl, rfl⟩ | ⟨more, rfl, hcs⟩
    · rcases more with _ | ⟨c, more⟩
      · exact ⟨breaks', ds, rfl, hblanks, h⟩
      · have hc := isBlank_of_isBreak (hbreaks c (by simp))
        rw [hrest c rfl] at hc
        cases hc
    · have hmore : IsBlanks more := fun c hc => hgap c (List.mem_append_right _ hc)
      obtain ⟨gap', tail, rfl, hgap', htail⟩ := ih hmore hcs.symm
      refine ⟨breaks' ++ gap', tail, (List.append_assoc _ _ _).symm, fun c hc => ?_, htail⟩
      exact (List.mem_append.mp hc).elim (hblanks c) (hgap' c)

/-! ## Parts without ends of lines -/

theorem not_isBreak_of_visible {c : Char} (h : 32 ≤ c.toNat) : ¬ IsBreak c := by
  rintro (rfl | rfl) <;> exact absurd h (by decide)

theorem not_isBreak_of_isDigit {c : Char} (h : c.isDigit = true) : ¬ IsBreak c := by
  rintro (rfl | rfl) <;> cases h

theorem not_isBreak_of_hexNumber? {cs : List Char} {n : Nat} (h : hexNumber? cs = some n) :
    ∀ c ∈ cs, ¬ IsBreak c := by
  have hread : ∀ start, cs.foldlM (fun n c => (hexValue? c).map (16 * n + ·)) start = some n →
      ∀ c ∈ cs, ¬ IsBreak c := by
    clear h
    induction cs with
    | nil => exact fun _ _ _ h => nomatch h
    | cons d cs ih =>
      intro start h
      rw [List.foldlM_cons] at h
      obtain ⟨value, hvalue, hrest⟩ := Option.bind_eq_some_iff.mp h
      obtain ⟨digit, hdigit, -⟩ := Option.map_eq_some_iff.mp hvalue
      refine List.forall_mem_cons.mpr ⟨?_, ih value hrest⟩
      rintro (rfl | rfl) <;> cases hdigit
  exact hread 0 h

theorem Spells.not_isBreak {body : List Char} {pieces : List Piece} (h : Spells body pieces) :
    ∀ c ∈ body, ¬ IsBreak c := by
  have hslash : ¬ IsBreak '\\' := by simp [IsBreak]
  induction h with
  | nil => nofun
  | plain _ _ hvisible _ ih => exact List.forall_mem_cons.mpr ⟨not_isBreak_of_visible hvisible, ih⟩
  | letter hknown _ ih =>
    refine List.forall_mem_cons.mpr ⟨hslash, List.forall_mem_cons.mpr ⟨?_, ih⟩⟩
    rintro (rfl | rfl) <;> cases hknown
  | code hknown _ ih =>
    have hdigits := not_isBreak_of_hexNumber? hknown
    simp only [List.forall_mem_cons] at hdigits ⊢
    exact ⟨hslash, by simp [IsBreak], hdigits.1, hdigits.2.1, hdigits.2.2.1, hdigits.2.2.2.1, ih⟩

theorem Spells.not_isBreak_quoted {body : List Char} {pieces : List Piece} (h : Spells body pieces) :
    ∀ c ∈ '"' :: (body ++ ['"']), ¬ IsBreak c := by
  rw [List.forall_mem_cons, List.forall_mem_append]
  exact ⟨by simp [IsBreak], h.not_isBreak, by simp [IsBreak]⟩

theorem IsDigits.not_isBreak {ds : List Char} (h : IsDigits ds) : ∀ c ∈ ds, ¬ IsBreak c :=
  fun c hc => not_isBreak_of_isDigit (h.digits c hc)

theorem not_isBreak_minus (negative : Bool) : ∀ c ∈ minus negative, ¬ IsBreak c := by
  cases negative <;> simp [minus, IsBreak]

theorem not_isBreak_sign {sign : List Char} {factor : Int} (h : (sign, factor) ∈ powerSigns) :
    ∀ c ∈ sign, ¬ IsBreak c := by
  simp only [powerSigns, List.mem_cons, Prod.mk.injEq, List.not_mem_nil, or_false] at h
  rcases h with ⟨rfl, -⟩ | ⟨rfl, -⟩ | ⟨rfl, -⟩ <;> simp [IsBreak]

theorem not_isBreak_mark {mark : Char} (h : mark = 'e' ∨ mark = 'E') : ¬ IsBreak mark := by
  rcases h with rfl | rfl <;> simp [IsBreak]

theorem Number.not_isBreak {limit : Nat} {cs : List Char} {v : Value} (h : Number limit cs v) :
    ∀ c ∈ cs, ¬ IsBreak c := by
  cases h with
  | integer negative whole _ =>
    rw [List.forall_mem_append]
    exact ⟨not_isBreak_minus negative, whole.not_isBreak⟩
  | real negative whole hfraction hexponent _ =>
    simp only [List.forall_mem_append]
    refine ⟨not_isBreak_minus negative, whole.not_isBreak, ?_, ?_⟩
    · cases hfraction with
      | absent => nofun
      | point h => exact List.forall_mem_cons.mpr ⟨by simp [IsBreak], h.not_isBreak⟩
    · cases hexponent with
      | absent => nofun
      | power hmark hsign h =>
        rw [List.forall_mem_cons, List.forall_mem_append]
        exact ⟨not_isBreak_mark hmark, not_isBreak_sign hsign, h.not_isBreak⟩

theorem not_isBreak_word {word : List Char} {v : Value} (h : (word, v) ∈ words) :
    ∀ c ∈ word, ¬ IsBreak c := by
  simp only [words, List.mem_cons, Prod.mk.injEq, List.not_mem_nil, or_false] at h
  obtain ⟨rfl, -⟩ | ⟨rfl, -⟩ | ⟨rfl, -⟩ | ⟨rfl, -⟩ | ⟨rfl, -⟩ | ⟨rfl, -⟩ := h <;> simp [IsBreak]

/-! ## The grammar -/

theorem Begins.head {cs : List Char} (h : Begins cs) : ∀ c ∈ cs.head?, isBlank c = false := by
  obtain ⟨c, tail, rfl, hc, -⟩ := h
  simpa using hc

/-- Blanks and a mark behind them. -/
theorem Relined.mark {gap rest ds : List Char} {c : Char} (h : Relined (gap ++ c :: rest) ds)
    (hgap : IsBlanks gap) (hc : isBlank c = false) :
    ∃ gap' tail, ds = gap' ++ c :: tail ∧ IsBlanks gap' ∧ Relined rest tail := by
  obtain ⟨gap', tail, rfl, hgap', htail⟩ := h.blanks hgap (by simpa using hc)
  have hbreak : ¬ IsBreak c := fun hbreak => by
    rw [isBlank_of_isBreak hbreak] at hc
    cases hc
  obtain ⟨tail, rfl, hrest⟩ := htail.cons hbreak
  exact ⟨gap', tail, rfl, hgap', hrest⟩

theorem Label.reline {label rest ds : List Char} {key : String} (h : Label label key) (hrest : Begins rest)
    (hline : Relined (label ++ rest) ds) :
    ∃ label' tail, ds = label' ++ tail ∧ Label label' key ∧ Relined rest tail := by
  cases h with
  | @mk body before after pieces hbody hbefore hafter =>
    have hsplit : '"' :: (body ++ '"' :: (before ++ ':' :: after)) ++ rest =
        ('"' :: (body ++ ['"'])) ++ (before ++ ':' :: (after ++ rest)) := by simp
    rw [hsplit] at hline
    obtain ⟨tail, rfl, hline₁⟩ := hline.append hbody.not_isBreak_quoted
    obtain ⟨before', tail, rfl, hbefore', hline₂⟩ := hline₁.mark hbefore (by decide)
    obtain ⟨after', tail, rfl, hafter', hline₃⟩ := hline₂.blanks hafter hrest.head
    exact ⟨_, tail, by simp, .mk hbody hbefore' hafter', hline₃⟩

mutual

theorem Denotes.reline {limit : Nat} {body : List Char} {v : Value} :
    Denotes limit body v → ∀ {rest ds : List Char}, Relined (body ++ rest) ds →
      ∃ body' tail, ds = body' ++ tail ∧ Denotes limit body' v ∧ Relined rest tail
  | .word h, _, _, hline => by
    obtain ⟨tail, rfl, hrest⟩ := hline.append (not_isBreak_word h)
    exact ⟨_, tail, rfl, .word h, hrest⟩
  | .number h, _, _, hline => by
    obtain ⟨tail, rfl, hrest⟩ := hline.append h.not_isBreak
    exact ⟨_, tail, rfl, .number h, hrest⟩
  | .text h, _, _, hline => by
    obtain ⟨tail, rfl, hrest⟩ := hline.append h.not_isBreak_quoted
    exact ⟨_, tail, rfl, .text h, hrest⟩
  | .emptyList hgap, _, _, hline => by
    rw [List.cons_append, List.append_assoc] at hline
    obtain ⟨tail, rfl, hline₁⟩ := hline.cons (by simp [IsBreak])
    obtain ⟨gap', tail, rfl, hgap', hrest⟩ := hline₁.mark hgap (by decide)
    exact ⟨_, tail, by simp, .emptyList hgap', hrest⟩
  | .list hgap h, _, _, hline => by
    rw [List.cons_append, List.append_assoc] at hline
    obtain ⟨tail, rfl, hline₁⟩ := hline.cons (by simp [IsBreak])
    obtain ⟨gap', tail, rfl, hgap', hline₂⟩ := hline₁.blanks hgap (h.begins.append _).head
    obtain ⟨cs', tail, rfl, h', hrest⟩ := h.reline hline₂
    exact ⟨_, tail, by simp, .list hgap' h', hrest⟩
  | .emptyMap hgap, _, _, hline => by
    rw [List.cons_append, List.append_assoc] at hline
    obtain ⟨tail, rfl, hline₁⟩ := hline.cons (by simp [IsBreak])
    obtain ⟨gap', tail, rfl, hgap', hrest⟩ := hline₁.mark hgap (by decide)
    exact ⟨_, tail, by simp, .emptyMap hgap', hrest⟩
  | .map hgap h, _, _, hline => by
    rw [List.cons_append, List.append_assoc] at hline
    obtain ⟨tail, rfl, hline₁⟩ := hline.cons (by simp [IsBreak])
    obtain ⟨gap', tail, rfl, hgap', hline₂⟩ := hline₁.blanks hgap (h.begins.append _).head
    obtain ⟨cs', tail, rfl, h', hrest⟩ := h.reline hline₂
    exact ⟨_, tail, by simp, .map hgap' h', hrest⟩

theorem Items.reline {limit : Nat} {cs : List Char} {items : List Value} :
    Items limit cs items → ∀ {rest ds : List Char}, Relined (cs ++ rest) ds →
      ∃ cs' tail, ds = cs' ++ tail ∧ Items limit cs' items ∧ Relined rest tail
  | .last h hback, _, _, hline => by
    rw [List.append_assoc, List.append_assoc] at hline
    obtain ⟨body', tail, rfl, h', hline₁⟩ := h.reline hline
    obtain ⟨back', tail, rfl, hback', hrest⟩ := hline₁.mark hback (by decide)
    exact ⟨_, tail, by simp, .last h' hback', hrest⟩
  | .cons h hback hgap hitems, _, _, hline => by
    rw [List.append_assoc, List.append_assoc, List.cons_append, List.append_assoc] at hline
    obtain ⟨body', tail, rfl, h', hline₁⟩ := h.reline hline
    obtain ⟨back', tail, rfl, hback', hline₂⟩ := hline₁.mark hback (by decide)
    obtain ⟨gap', tail, rfl, hgap', hline₃⟩ := hline₂.blanks hgap (hitems.begins.append _).head
    obtain ⟨cs', tail, rfl, hitems', hrest⟩ := hitems.reline hline₃
    exact ⟨_, tail, by simp, .cons h' hback' hgap' hitems', hrest⟩

theorem Entries.reline {limit : Nat} {cs : List Char} {entries : List (String × Value)} :
    Entries limit cs entries → ∀ {rest ds : List Char}, Relined (cs ++ rest) ds →
      ∃ cs' tail, ds = cs' ++ tail ∧ Entries limit cs' entries ∧ Relined rest tail
  | .last hlabel h hback, _, _, hline => by
    rw [List.append_assoc, List.append_assoc, List.append_assoc] at hline
    obtain ⟨label', tail, rfl, hlabel', hline₁⟩ := hlabel.reline (h.begins.append _) hline
    obtain ⟨body', tail, rfl, h', hline₂⟩ := h.reline hline₁
    obtain ⟨back', tail, rfl, hback', hrest⟩ := hline₂.mark hback (by decide)
    exact ⟨_, tail, by simp, .last hlabel' h' hback', hrest⟩
  | .cons hlabel h hback hgap hentries, _, _, hline => by
    rw [List.append_assoc, List.append_assoc, List.append_assoc, List.cons_append, List.append_assoc]
      at hline
    obtain ⟨label', tail, rfl, hlabel', hline₁⟩ := hlabel.reline (h.begins.append _) hline
    obtain ⟨body', tail, rfl, h', hline₂⟩ := h.reline hline₁
    obtain ⟨back', tail, rfl, hback', hline₃⟩ := hline₂.mark hback (by decide)
    obtain ⟨gap', tail, rfl, hgap', hline₄⟩ := hline₃.blanks hgap (hentries.begins.append _).head
    obtain ⟨cs', tail, rfl, hentries', hrest⟩ := hentries.reline hline₄
    exact ⟨_, tail, by simp, .cons hlabel' h' hback' hgap' hentries', hrest⟩

end

theorem IsText.reline {limit : Nat} {cs ds : List Char} {v : Value} (h : IsText limit cs v)
    (hline : Relined cs ds) : IsText limit ds v := by
  obtain ⟨front, body, back, hfront, hbody, hback, rfl⟩ := h
  obtain ⟨front', tail, rfl, hfront', hline₁⟩ := hline.blanks hfront (hbody.begins.append back).head
  obtain ⟨body', tail, rfl, hbody', hline₂⟩ := hbody.reline hline₁
  rw [← List.append_nil back] at hline₂
  obtain ⟨back', tail, rfl, hback', hline₃⟩ := hline₂.blanks hback nofun
  obtain rfl : tail = [] := by
    generalize hnil : ([] : List Char) = none at hline₃
    cases hline₃ with
    | nil => rfl
    | same => cases hnil
    | ends hne => exact absurd (List.append_eq_nil_iff.mp hnil.symm).1 hne
  exact ⟨front', body', back', hfront', hbody', hback', by simp⟩

/-- What goes on with an integer is no end of a line. -/
theorem Continues.reline {cs ds : List Char} (h : Continues cs) (hline : Relined cs ds) : Continues ds := by
  cases h with
  | digit hd rest =>
    obtain ⟨tail, rfl, -⟩ := hline.cons (not_isBreak_of_isDigit hd)
    exact .digit hd tail
  | fraction hd rest =>
    obtain ⟨tail, rfl, hline₁⟩ := hline.cons (by simp [IsBreak])
    obtain ⟨tail, rfl, -⟩ := hline₁.cons (not_isBreak_of_isDigit hd)
    exact .fraction hd tail
  | power hmark hsign hd rest =>
    obtain ⟨tail, rfl, hline₁⟩ := hline.cons (not_isBreak_mark hmark)
    obtain ⟨tail, rfl, hline₂⟩ := hline₁.append (not_isBreak_sign hsign)
    obtain ⟨tail, rfl, -⟩ := hline₂.cons (not_isBreak_of_isDigit hd)
    exact .power hmark hsign hd tail

mutual

theorem Overlong.reline {count : Nat} {cs : List Char} :
    Overlong count cs → ∀ {ds : List Char}, Relined cs ds → Overlong count ds
  | .number negative whole hcount long hrest, _, hline => by
    obtain ⟨tail, rfl, hline₁⟩ := hline.append (not_isBreak_minus negative)
    obtain ⟨tail, rfl, hline₂⟩ := hline₁.append whole.not_isBreak
    exact .number negative whole hcount long fun h => hrest (h.reline hline₂.symm)
  | .list hgap h, _, hline => by
    obtain ⟨tail, rfl, hline₁⟩ := hline.cons (by simp [IsBreak])
    obtain ⟨gap', tail, rfl, hgap', hline₂⟩ := hline₁.blanks hgap h.begins.head
    exact .list hgap' (h.reline hline₂)
  | .map hgap h, _, hline => by
    obtain ⟨tail, rfl, hline₁⟩ := hline.cons (by simp [IsBreak])
    obtain ⟨gap', tail, rfl, hgap', hline₂⟩ := hline₁.blanks hgap h.begins.head
    exact .map hgap' (h.reline hline₂)

theorem OverlongItems.reline {count : Nat} {cs : List Char} :
    OverlongItems count cs → ∀ {ds : List Char}, Relined cs ds → OverlongItems count ds
  | .here h, _, hline => .here (h.reline hline)
  | .later h hback hgap hitems, _, hline => by
    obtain ⟨body', tail, rfl, h', hline₁⟩ := h.reline hline
    obtain ⟨back', tail, rfl, hback', hline₂⟩ := hline₁.mark hback (by decide)
    obtain ⟨gap', tail, rfl, hgap', hline₃⟩ := hline₂.blanks hgap hitems.begins.head
    exact .later h' hback' hgap' (hitems.reline hline₃)

theorem OverlongEntries.reline {count : Nat} {cs : List Char} :
    OverlongEntries count cs → ∀ {ds : List Char}, Relined cs ds → OverlongEntries count ds
  | .here hlabel h, _, hline => by
    obtain ⟨label', tail, rfl, hlabel', hline₁⟩ := hlabel.reline h.begins hline
    exact .here hlabel' (h.reline hline₁)
  | .later hlabel h hback hgap hentries, _, hline => by
    obtain ⟨label', tail, rfl, hlabel', hline₁⟩ := hlabel.reline (h.begins.append _) hline
    obtain ⟨body', tail, rfl, h', hline₂⟩ := h.reline hline₁
    obtain ⟨back', tail, rfl, hback', hline₃⟩ := hline₂.mark hback (by decide)
    obtain ⟨gap', tail, rfl, hgap', hline₄⟩ := hline₃.blanks hgap hentries.begins.head
    exact .later hlabel' h' hback' hgap' (hentries.reline hline₄)

end

theorem IsOverlong.reline {count : Nat} {cs ds : List Char} (h : IsOverlong count cs)
    (hline : Relined cs ds) : IsOverlong count ds := by
  obtain ⟨front, rest, hfront, hlong, rfl⟩ := h
  obtain ⟨front', tail, rfl, hfront', hline₁⟩ := hline.blanks hfront hlong.begins.head
  exact ⟨front', tail, hfront', hlong.reline hline₁, rfl⟩

theorem isText_unifyLineEnds_iff {limit : Nat} {cs : List Char} {v : Value} :
    IsText limit (unifyLineEnds cs) v ↔ IsText limit cs v :=
  ⟨fun h => h.reline (relined_unifyLineEnds cs).symm, fun h => h.reline (relined_unifyLineEnds cs)⟩

theorem isOverlong_unifyLineEnds_iff {count : Nat} {cs : List Char} :
    IsOverlong count (unifyLineEnds cs) ↔ IsOverlong count cs :=
  ⟨fun h => h.reline (relined_unifyLineEnds cs).symm, fun h => h.reline (relined_unifyLineEnds cs)⟩

end Localize.Json
