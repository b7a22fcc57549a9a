/-
  Reading of JSON texts. The reader takes from the front of a text what the grammar says that there is
  (`Sound`), each of its three parts from those of one level of fuel less, and it takes all of it where the
  fuel covers the text (`Complete`). So a text is read just as the value that it denotes (`read_eq_ok_iff`),
  and it is refused for the number of an integer's digits just where it is read up to that integer
  (`read_eq_tooManyDigits_iff`).
-/
import Localize.Proofs.Json.Grammar

namespace Localize.Json

open Text (Cursor)

/-! ## What is taken is in the grammar -/

/-- The outcome of reading a value from the front of a text. -/
def ValueRead (cs : List Char) : Except Fault (Value × Cursor) → Prop
  | .ok (v, next) => ∃ body, cs = body ++ next.rest ∧ Denotes digitLimit body v
  | .error (.tooManyDigits count) => Overlong count cs
  | .error _ => True

/-- The outcome of reading items behind those read so far, which come reversed. -/
def ItemsRead (read : List Value) (cs : List Char) : Except Fault (Value × Cursor) → Prop
  | .ok (v, next) => ∃ front items, cs = front ++ next.rest ∧ Items digitLimit front items ∧
      v = .list (read.reverse ++ items)
  | .error (.tooManyDigits count) => OverlongItems count cs
  | .error _ => True

/-- The outcome of reading entries behind those read so far. -/
def EntriesRead (read : List (String × Value)) (cs : List Char) : Except Fault (Value × Cursor) → Prop
  | .ok (v, next) => ∃ front entries, cs = front ++ next.rest ∧ Entries digitLimit front entries ∧
      v = .map (entries.foldl (fun read e => setEntry e.1 e.2 read) read)
  | .error (.tooManyDigits count) => OverlongEntries count cs
  | .error _ => True

/-- With so much fuel, what is read is in the grammar. -/
structure Sound (fuel : Nat) : Prop where
  value : ∀ s, ValueRead s.rest (readValue fuel s)
  items : ∀ read s, ItemsRead read s.rest (readItems fuel read s)
  entries : ∀ read s, EntriesRead read s.rest (readEntries fuel read s)

/-- Behind a mark the blanks are stepped over. -/
theorem skipBlanks_behind {s : Cursor} {c : Char} {tail : List Char} (h : s.rest = c :: tail) :
    ∃ gap, IsBlanks gap ∧ tail = gap ++ (skipBlanks (s.skip 1)).rest := by
  obtain ⟨gap, hgap, hskip⟩ := skipBlanks_split (s.skip 1)
  refine ⟨gap, hgap, ?_⟩
  rw [← hskip, Cursor.skip, h]
  rfl

/-! ### Lists -/

/-- How a list goes on behind an item and the blanks after it. -/
def itemsBehind (fuel : Nat) (read : List Value) (s : Cursor) : Except Fault (Value × Cursor) :=
  match s.rest with
  | ']' :: _ => .ok (.list read.reverse, s.skip 1)
  | ',' :: _ => readItems fuel read (skipBlanks (s.skip 1))
  | _ => .error (.comma s.position)

theorem readItems_succ (fuel : Nat) (read : List Value) (s : Cursor) :
    readItems (fuel + 1) read s = (readValue fuel s).bind fun (v, next) =>
      itemsBehind fuel (v :: read) (skipBlanks next) := by
  rw [readItems]
  rfl

theorem ItemsRead.cons {read : List Value} {v : Value} {body back gap cs : List Char}
    {r : Except Fault (Value × Cursor)} (hbody : Denotes digitLimit body v) (hback : IsBlanks back)
    (hgap : IsBlanks gap) (h : ItemsRead (v :: read) cs r) :
    ItemsRead read (body ++ (back ++ ',' :: (gap ++ cs))) r := by
  rcases r with f | ⟨w, next⟩
  · cases f with
    | tooManyDigits count => exact .later hbody hback hgap h
    | _ => trivial
  · obtain ⟨front, items, rfl, hitems, rfl⟩ := h
    exact ⟨_, v :: items, by simp, .cons hbody hback hgap hitems, by simp⟩

theorem Sound.itemsBehind {fuel : Nat} (h : Sound fuel) {body back : List Char} {v : Value}
    (hbody : Denotes digitLimit body v) (hback : IsBlanks back) (read : List Value) (s : Cursor) :
    ItemsRead read (body ++ (back ++ s.rest)) (itemsBehind fuel (v :: read) s) := by
  unfold Json.itemsBehind
  split
  · rename_i rest hrest
    exact ⟨body ++ (back ++ [']']), [v], by simp [hrest, Cursor.skip], .last hbody hback, by simp⟩
  · rename_i rest hrest
    obtain ⟨gap, hgap, hskip⟩ := skipBlanks_behind hrest
    rw [hrest, hskip]
    exact .cons hbody hback hgap (h.items _ _)
  · trivial

theorem Sound.items_succ {fuel : Nat} (h : Sound fuel) (read : List Value) (s : Cursor) :
    ItemsRead read s.rest (readItems (fuel + 1) read s) := by
  have hv := h.value s
  rw [readItems_succ]
  generalize readValue fuel s = r at hv ⊢
  rcases r with f | ⟨v, next⟩
  · cases f with
    | tooManyDigits count => exact .here hv
    | _ => trivial
  · obtain ⟨body, hs, hbody⟩ := hv
    obtain ⟨back, hback, hnext⟩ := skipBlanks_split next
    rw [hs, hnext]
    exact h.itemsBehind hbody hback read (skipBlanks next)

/-! ### Maps -/

/-- How a map goes on behind an entry and the blanks after it. -/
def entriesBehind (fuel : Nat) (read : List (String × Value)) (s : Cursor) :
    Except Fault (Value × Cursor) :=
  match s.rest with
  | '\x7d' :: _ => .ok (.map read, s.skip 1)
  | ',' :: _ => readEntries fuel read (skipBlanks (s.skip 1))
  | _ => .error (.comma s.position)

/-- How a map goes on behind a key and the blanks after it. -/
def entryBehind (fuel : Nat) (key : String) (read : List (String × Value)) (s : Cursor) :
    Except Fault (Value × Cursor) :=
  match s.rest with
  | ':' :: _ => (readValue fuel (skipBlanks (s.skip 1))).bind fun (v, next) =>
      entriesBehind fuel (setEntry key v read) (skipBlanks next)
  | _ => .error (.colon s.position)

theorem readEntries_succ (fuel : Nat) (read : List (String × Value)) (position : Nat) (rest : List Char) :
    readEntries (fuel + 1) read ⟨position, '"' :: rest⟩ =
      (readString position (position + 1) none [] rest).bind fun (key, next) =>
        entryBehind fuel (String.ofList key) read (skipBlanks next) := by
  rw [readEntries]
  rfl

theorem EntriesRead.cons {read : List (String × Value)} {key : String} {v : Value}
    {label body back gap cs : List Char} {r : Except Fault (Value × Cursor)} (hlabel : Label label key)
    (hbody : Denotes digitLimit body v) (hback : IsBlanks back) (hgap : IsBlanks gap)
    (h : EntriesRead (setEntry key v read) cs r) :
    EntriesRead read (label ++ (body ++ (back ++ ',' :: (gap ++ cs)))) r := by
  rcases r with f | ⟨w, next⟩
  · cases f with
    | tooManyDigits count => exact .later hlabel hbody hback hgap h
    | _ => trivial
  · obtain ⟨front, entries, rfl, hentries, rfl⟩ := h
    exact ⟨_, (key, v) :: entries, by simp, .cons hlabel hbody hback hgap hentries, rfl⟩

theorem Sound.entriesBehind {fuel : Nat} (h : Sound fuel) {label body back : List Char} {key : String}
    {v : Value} (hlabel : Label label key) (hbody : Denotes digitLimit body v) (hback : IsBlanks back)
    (read : List (String × Value)) (s : Cursor) :
    EntriesRead read (label ++ (body ++ (back ++ s.rest)))
      (entriesBehind fuel (setEntry key v read) s) := by
  unfold Json.entriesBehind
  split
  · rename_i rest hrest
    exact ⟨label ++ (body ++ (back ++ ['\x7d'])), [(key, v)], by simp [hrest, Cursor.skip],
      .last hlabel hbody hback, rfl⟩
  · rename_i rest hrest
    obtain ⟨gap, hgap, hskip⟩ := skipBlanks_behind hrest
    rw [hrest, hskip]
    exact .cons hlabel hbody hback hgap (h.entries _ _)
  · trivial

theorem Sound.entryBehind {fuel : Nat} (h : Sound fuel) {body before : List Char} {pieces : List Piece}
    (hbody : Spells body pieces) (hbefore : IsBlanks before) (read : List (String × Value)) (s : Cursor) :
    EntriesRead read ('"' :: (body ++ '"' :: (before ++ s.rest)))
      (entryBehind fuel (String.ofList (Piece.chars pieces)) read s) := by
  unfold Json.entryBehind
  split
  · rename_i rest hcolon
    obtain ⟨after, hafter, hskip⟩ := skipBlanks_behind hcolon
    have hlabel := Label.mk hbody hbefore hafter
    have hv := h.value (skipBlanks (s.skip 1))
    have hfront : '"' :: (body ++ '"' :: (before ++ s.rest)) =
        '"' :: (body ++ '"' :: (before ++ ':' :: after)) ++ (skipBlanks (s.skip 1)).rest := by
      rw [hcolon, hskip]
      simp
    rw [hfront]
    generalize skipBlanks (s.skip 1) = t at hv ⊢
    generalize readValue fuel t = r at hv ⊢
    rcases r with f | ⟨v, next⟩
    · cases f with
      | tooManyDigits count => exact .here hlabel hv
      | _ => trivial
    · obtain ⟨value, ht, hvalue⟩ := hv
      obtain ⟨back, hback, hnext⟩ := skipBlanks_split next
      rw [ht, hnext]
      exact h.entriesBehind hlabel hvalue hback read (skipBlanks next)
  · trivial

theorem Sound.entries_succ {fuel : Nat} (h : Sound fuel) (read : List (String × Value)) (s : Cursor) :
    EntriesRead read s.rest (readEntries (fuel + 1) read s) := by
  obtain ⟨position, cs⟩ := s
  by_cases hquote : ∃ rest, cs = '"' :: rest
  · obtain ⟨rest, rfl⟩ := hquote
    rw [readEntries_succ]
    rcases hkey : readString position (position + 1) none [] rest with f | ⟨key, next⟩
    · cases f with
      | tooManyDigits count => exact (readString_ne_tooManyDigits _ _ _ _ _ _ hkey).elim
      | _ => trivial
    · obtain ⟨body, pieces, hbody, rfl, rfl⟩ := stringBody_of_readString Piece.pending_none hkey
      obtain ⟨before, hbefore, hnext⟩ := skipBlanks_split next
      rw [hnext]
      exact h.entryBehind hbody hbefore read (skipBlanks next)
  · rw [readEntries]
    split
    · rename_i rest hrest
      exact absurd ⟨rest, hrest⟩ hquote
    · trivial

/-! ### Values -/

/-- How a list goes on behind its bracket and the blanks after it. -/
def listFrom (fuel : Nat) (s : Cursor) : Except Fault (Value × Cursor) :=
  match s.rest with
  | ']' :: _ => .ok (.list [], s.skip 1)
  | _ => readItems fuel [] s

/-- How a map goes on behind its brace and the blanks after it. -/
def mapFrom (fuel : Nat) (s : Cursor) : Except Fault (Value × Cursor) :=
  match s.rest with
  | '\x7d' :: _ => .ok (.map [], s.skip 1)
  | _ => readEntries fuel [] s

/-- What is read where neither a string nor a list nor a map begins. -/
def plainFrom (s : Cursor) : Except Fault (Value × Cursor) :=
  match words.find? fun (word, _) => word.isPrefixOf s.rest with
  | some (word, value) => .ok (value, s.skip word.length)
  | none => readNumber s

theorem readValue_list (fuel position : Nat) (rest : List Char) :
    readValue (fuel + 1) ⟨position, '[' :: rest⟩ = listFrom fuel (skipBlanks ⟨position + 1, rest⟩) := by
  rw [readValue]
  rfl

theorem readValue_map (fuel position : Nat) (rest : List Char) :
    readValue (fuel + 1) ⟨position, '\x7b' :: rest⟩ = mapFrom fuel (skipBlanks ⟨position + 1, rest⟩) := by
  rw [readValue]
  rfl

theorem readValue_plain (fuel position : Nat) {c : Char} (rest : List Char) (hquote : c ≠ '"')
    (hmap : c ≠ '\x7b') (hlist : c ≠ '[') :
    readValue (fuel + 1) ⟨position, c :: rest⟩ = plainFrom ⟨position, c :: rest⟩ := by
  rw [readValue]
  split
  · rename_i heq
    cases heq
  · rename_i heq
    exact absurd (List.cons.inj heq).1 hquote
  · rename_i heq
    exact absurd (List.cons.inj heq).1 hmap
  · rename_i heq
    exact absurd (List.cons.inj heq).1 hlist
  · rfl

theorem valueRead_plainFrom (s : Cursor) : ValueRead s.rest (plainFrom s) := by
  unfold plainFrom
  split
  · rename_i word v hfind
    have hfront : word <+: s.rest := by simpa using List.find?_some hfind
    obtain ⟨tail, htail⟩ := hfront
    refine ⟨word, ?_, .word (List.mem_of_find?_eq_some hfind)⟩
    simp [← htail, Cursor.skip]
  · have h := numberRead_readNumber s.rest s.position
    show ValueRead s.rest (readNumber ⟨s.position, s.rest⟩)
    generalize readNumber ⟨s.position, s.rest⟩ = r at h ⊢
    cases h with
    | value next hcs hnumber => exact ⟨_, hcs, .number hnumber⟩
    | long negative hcs whole long hrest =>
      show Overlong _ s.rest
      rw [hcs]
      exact .number negative whole rfl long hrest
    | none position => trivial

theorem Sound.listFrom {fuel : Nat} (h : Sound fuel) {gap : List Char} (hgap : IsBlanks gap) (s : Cursor) :
    ValueRead ('[' :: (gap ++ s.rest)) (listFrom fuel s) := by
  unfold Json.listFrom
  split
  · rename_i rest hrest
    exact ⟨'[' :: (gap ++ [']']), by simp [hrest, Cursor.skip], .emptyList hgap⟩
  · have hitems := h.items [] s
    generalize readItems fuel [] s = r at hitems ⊢
    rcases r with f | ⟨v, next⟩
    · cases f with
      | tooManyDigits count => exact .list hgap hitems
      | _ => trivial
    · obtain ⟨cs, items, hcs, hitems, rfl⟩ := hitems
      exact ⟨_, by simp [hcs], .list hgap hitems⟩

theorem Sound.mapFrom {fuel : Nat} (h : Sound fuel) {gap : List Char} (hgap : IsBlanks gap) (s : Cursor) :
    ValueRead ('\x7b' :: (gap ++ s.rest)) (mapFrom fuel s) := by
  unfold Json.mapFrom
  split
  · rename_i rest hrest
    exact ⟨'\x7b' :: (gap ++ ['\x7d']), by simp [hrest, Cursor.skip], .emptyMap hgap⟩
  · have hentries := h.entries [] s
    generalize readEntries fuel [] s = r at hentries ⊢
    rcases r with f | ⟨v, next⟩
    · cases f with
      | tooManyDigits count => exact .map hgap hentries
      | _ => trivial
    · obtain ⟨cs, entries, hcs, hentries, rfl⟩ := hentries
      exact ⟨_, by simp [hcs], .map hgap hentries⟩

theorem Sound.value_succ {fuel : Nat} (h : Sound fuel) (s : Cursor) :
    ValueRead s.rest (readValue (fuel + 1) s) := by
  obtain ⟨position, cs⟩ := s
  rcases cs with _ | ⟨c, rest⟩
  · trivial
  · by_cases hquote : c = '"'
    · subst hquote
      rw [readValue_quote]
      rcases hread : readString position (position + 1) none [] rest with f | ⟨text, next⟩
      · cases f with
        | tooManyDigits count => exact (readString_ne_tooManyDigits _ _ _ _ _ _ hread).elim
        | _ => trivial
      · obtain ⟨body, pieces, hbody, rfl, rfl⟩ := stringBody_of_readString Piece.pending_none hread
        exact ⟨'"' :: (body ++ ['"']), by simp, .text hbody⟩
    · by_cases hmap : c = '\x7b'
      · subst hmap
        rw [readValue_map]
        obtain ⟨gap, hgap, hrest⟩ := skipBlanks_split ⟨position + 1, rest⟩
        simpa only [← hrest] using h.mapFrom hgap (skipBlanks ⟨position + 1, rest⟩)
      · by_cases hlist : c = '['
        · subst hlist
          rw [readValue_list]
          obtain ⟨gap, hgap, hrest⟩ := skipBlanks_split ⟨position + 1, rest⟩
          simpa only [← hrest] using h.listFrom hgap (skipBlanks ⟨position + 1, rest⟩)
        · rw [readValue_plain fuel position rest hquote hmap hlist]
          exact valueRead_plainFrom _

theorem sound (fuel : Nat) : Sound fuel := by
  -- Each of the three readers calls the others with one level less.
  induction fuel with
  | zero => exact ⟨fun _ => trivial, fun _ _ => trivial, fun _ _ => trivial⟩
  | succ fuel ih => exact ⟨ih.value_succ, ih.items_succ, ih.entries_succ⟩

/-! ## What is in the grammar is taken -/

/-- The first character of a value: no blank, no mark that closes a list or a map, and no mark of the byte
order. -/
def Begins (cs : List Char) : Prop :=
  ∃ c tail, cs = c :: tail ∧ isBlank c = false ∧ c ≠ ']' ∧ c ≠ '\x7d' ∧ c ≠ '\ufeff'

theorem Begins.append {cs : List Char} (h : Begins cs) (rest : List Char) : Begins (cs ++ rest) := by
  obtain ⟨c, tail, rfl, hc⟩ := h
  exact ⟨c, tail ++ rest, rfl, hc⟩

theorem Begins.skipBlanks {cs gap : List Char} (h : Begins cs) (hgap : IsBlanks gap) (position : Nat) :
    skipBlanks ⟨position, gap ++ cs⟩ = ⟨position + gap.length, cs⟩ := by
  obtain ⟨c, tail, rfl, hc, -⟩ := h
  exact skipBlanks_append hgap (by simpa using hc) position

theorem Begins.pos {cs : List Char} (h : Begins cs) : 0 < cs.length := by
  obtain ⟨c, tail, rfl, -⟩ := h
  exact Nat.succ_pos _

theorem IsDigits.begins {ds : List Char} (h : IsDigits ds) (negative : Bool) (rest : List Char) :
    Begins (minus negative ++ (ds ++ rest)) := by
  cases negative with
  | true => exact ⟨'-', ds ++ rest, rfl, by decide, by decide, by decide, by decide⟩
  | false =>
    obtain ⟨d, tail, rfl, hd⟩ := h.cases
    have hblank : isBlank d = false := by
      simp [isBlank, ne_of_isDigit hd (d := ' ') rfl, ne_of_isDigit hd (d := '\t') rfl,
        ne_of_isDigit hd (d := '\n') rfl, ne_of_isDigit hd (d := '\r') rfl]
    exact ⟨d, tail ++ rest, rfl, hblank, ne_of_isDigit hd rfl, ne_of_isDigit hd rfl,
      ne_of_isDigit hd (by decide)⟩

theorem Denotes.begins {limit : Nat} {body : List Char} {v : Value} (h : Denotes limit body v) :
    Begins body := by
  cases h with
  | word hword =>
    simp only [words, List.mem_cons, Prod.mk.injEq, List.not_mem_nil, or_false] at hword
    rcases hword with ⟨rfl, -⟩ | ⟨rfl, -⟩ | ⟨rfl, -⟩ | ⟨rfl, -⟩ | ⟨rfl, -⟩ | ⟨rfl, -⟩ <;>
      exact ⟨_, _, rfl, by decide, by decide, by decide, by decide⟩
  | number hnumber =>
    cases hnumber with
    | integer negative whole _ => simpa using whole.begins negative []
    | real negative whole _ _ _ => exact whole.begins negative _
  | text _ => exact ⟨'"', _, rfl, by decide, by decide, by decide, by decide⟩
  | emptyList _ => exact ⟨'[', _, rfl, by decide, by decide, by decide, by decide⟩
  | list _ _ => exact ⟨'[', _, rfl, by decide, by decide, by decide, by decide⟩
  | emptyMap _ => exact ⟨'\x7b', _, rfl, by decide, by decide, by decide, by decide⟩
  | map _ _ => exact ⟨'\x7b', _, rfl, by decide, by decide, by decide, by decide⟩

theorem Items.begins {limit : Nat} {cs : List Char} {items : List Value} (h : Items limit cs items) :
    Begins cs := by
  cases h with
  | last h _ => exact h.begins.append _
  | cons h _ _ _ => exact h.begins.append _

theorem Label.begins {label : List Char} {key : String} (h : Label label key) : Begins label := by
  cases h with
  | mk _ _ _ => exact ⟨'"', _, rfl, by decide, by decide, by decide, by decide⟩

theorem Entries.begins {limit : Nat} {cs : List Char} {entries : List (String × Value)}
    (h : Entries limit cs entries) : Begins cs := by
  cases h with
  | last h _ _ => exact h.begins.append _
  | cons h _ _ _ _ => exact h.begins.append _

theorem Overlong.begins {count : Nat} {cs : List Char} (h : Overlong count cs) : Begins cs := by
  cases h with
  | number negative whole _ _ _ => exact whole.begins negative _
  | list _ _ => exact ⟨'[', _, rfl, by decide, by decide, by decide, by decide⟩
  | map _ _ => exact ⟨'\x7b', _, rfl, by decide, by decide, by decide, by decide⟩

theorem OverlongItems.begins {count : Nat} {cs : List Char} (h : OverlongItems count cs) : Begins cs := by
  cases h with
  | here h => exact h.begins
  | later h _ _ _ => exact h.begins.append _

theorem OverlongEntries.begins {count : Nat} {cs : List Char} (h : OverlongEntries count cs) :
    Begins cs := by
  cases h with
  | here h _ => exact h.begins.append _
  | later h _ _ _ _ => exact h.begins.append _

/-- What can stand behind a value: nothing, a blank, or what closes or goes on with a list or a map. -/
def Follows (rest : List Char) : Prop :=
  ∀ c ∈ rest.head?, isBlank c = true ∨ c = ',' ∨ c = ']' ∨ c = '\x7d'

theorem follows_append {back : List Char} (hback : IsBlanks back) {rest : List Char} (h : Follows rest) :
    Follows (back ++ rest) := by
  rcases back with _ | ⟨c, back⟩
  · exact h
  · intro d hd
    cases hd
    exact .inl (hback c List.mem_cons_self)

theorem IsBlanks.follows {back : List Char} (h : IsBlanks back) : Follows back := by
  simpa using @follows_append back h [] nofun

theorem follows_cons {c : Char} (h : c = ',' ∨ c = ']' ∨ c = '\x7d') (rest : List Char) :
    Follows (c :: rest) := by
  intro d hd
  cases hd
  exact .inr h

theorem Follows.not_continues {rest : List Char} (h : Follows rest) : ¬ Continues rest := by
  have hne {c : Char} {tail : List Char} (heq : rest = c :: tail) :
      c.isDigit = false ∧ c ≠ '.' ∧ c ≠ 'e' ∧ c ≠ 'E' := by
    have hc := h c (by rw [heq]; rfl)
    simp only [isBlank, Bool.or_eq_true, decide_eq_true_eq] at hc
    rcases hc with (((rfl | rfl) | rfl) | rfl) | rfl | rfl | rfl <;> decide
  intro hcontinues
  cases hcontinues with
  | digit hd rest =>
    rw [(hne rfl).1] at hd
    cases hd
  | fraction _ rest => exact (hne rfl).2.1 rfl
  | power hmark _ _ _ =>
    obtain ⟨-, -, he, hE⟩ := hne rfl
    exact hmark.elim he hE

/-- So much fuel is enough for texts of so many characters. -/
structure Complete (fuel : Nat) : Prop where
  value : ∀ {body rest v}, Denotes digitLimit body v → body.length ≤ fuel → Follows rest →
    ∀ position, ∃ next, readValue fuel ⟨position, body ++ rest⟩ = .ok (v, ⟨next, rest⟩)
  items : ∀ {cs items}, Items digitLimit cs items → cs.length ≤ fuel → ∀ read position rest,
    ∃ next, readItems fuel read ⟨position, cs ++ rest⟩ = .ok (.list (read.reverse ++ items), ⟨next, rest⟩)
  entries : ∀ {cs entries}, Entries digitLimit cs entries → cs.length ≤ fuel → ∀ read position rest,
    ∃ next, readEntries fuel read ⟨position, cs ++ rest⟩ =
      .ok (.map (entries.foldl (fun read e => setEntry e.1 e.2 read) read), ⟨next, rest⟩)
  long : ∀ {cs count}, Overlong count cs → 2 * cs.length ≤ fuel →
    ∀ position, readValue fuel ⟨position, cs⟩ = .error (.tooManyDigits count)
  longItems : ∀ {cs count}, OverlongItems count cs → 2 * cs.length + 1 ≤ fuel →
    ∀ read position, readItems fuel read ⟨position, cs⟩ = .error (.tooManyDigits count)
  longEntries : ∀ {cs count}, OverlongEntries count cs → 2 * cs.length + 1 ≤ fuel →
    ∀ read position, readEntries fuel read ⟨position, cs⟩ = .error (.tooManyDigits count)

theorem complete_zero : Complete 0 where
  value h hlength := absurd h.begins.pos (Nat.not_lt.mpr hlength)
  items h hlength := absurd h.begins.pos (Nat.not_lt.mpr hlength)
  entries h hlength := absurd h.begins.pos (Nat.not_lt.mpr hlength)
  long h hlength := absurd h.begins.pos (by omega)
  longItems _ hlength := absurd hlength (by omega)
  longEntries _ hlength := absurd hlength (by omega)

/-! ### Lists -/

section Items

variable {fuel : Nat} {body back gap cs : List Char} {v : Value}

/-- Blanks and a mark behind an item. -/
theorem skipBlanks_mark {c : Char} (hc : isBlank c = false) (hback : IsBlanks back) (rest : List Char)
    (position : Nat) :
    skipBlanks ⟨position, back ++ c :: rest⟩ = ⟨position + back.length, c :: rest⟩ :=
  skipBlanks_append hback (by simpa using hc) position

theorem Complete.item_last (h : Complete fuel) (hbody : Denotes digitLimit body v)
    (hlength : body.length ≤ fuel) (hback : IsBlanks back) (rest : List Char) (read : List Value)
    (position : Nat) :
    ∃ next, readItems (fuel + 1) read ⟨position, body ++ (back ++ ']' :: rest)⟩ =
      .ok (.list (v :: read).reverse, ⟨next, rest⟩) := by
  obtain ⟨next, hread⟩ := h.value hbody hlength (follows_append hback (follows_cons (.inr (.inl rfl)) rest))
    position
  refine ⟨next + back.length + 1, ?_⟩
  rw [readItems_succ, hread]
  show itemsBehind fuel (v :: read) (skipBlanks ⟨next, back ++ ']' :: rest⟩) = _
  rw [skipBlanks_mark (by decide) hback]
  rfl

theorem Complete.item_comma (h : Complete fuel) (hbody : Denotes digitLimit body v)
    (hlength : body.length ≤ fuel) (hback : IsBlanks back) (hgap : IsBlanks gap) (hcs : Begins cs)
    (read : List Value) (position : Nat) :
    ∃ next, readItems (fuel + 1) read ⟨position, body ++ (back ++ ',' :: (gap ++ cs))⟩ =
      readItems fuel (v :: read) ⟨next, cs⟩ := by
  obtain ⟨next, hread⟩ := h.value hbody hlength (follows_append hback (follows_cons (.inl rfl) _)) position
  refine ⟨next + back.length + 1 + gap.length, ?_⟩
  rw [readItems_succ, hread]
  show itemsBehind fuel (v :: read) (skipBlanks ⟨next, back ++ ',' :: (gap ++ cs)⟩) = _
  rw [skipBlanks_mark (by decide) hback]
  show readItems fuel (v :: read) (skipBlanks ⟨next + back.length + 1, gap ++ cs⟩) = _
  rw [hcs.skipBlanks hgap]

end Items

theorem Complete.items_succ {fuel : Nat} (h : Complete fuel) {cs : List Char} {items : List Value}
    (hitems : Items digitLimit cs items) (hlength : cs.length ≤ fuel + 1) (read : List Value)
    (position : Nat) (rest : List Char) :
    ∃ next, readItems (fuel + 1) read ⟨position, cs ++ rest⟩ =
      .ok (.list (read.reverse ++ items), ⟨next, rest⟩) := by
  cases hitems with
  | @last body back v hbody hback =>
    simp only [List.length_append, List.length_singleton] at hlength
    obtain ⟨next, hread⟩ := h.item_last hbody (by omega) hback rest read position
    exact ⟨next, by simpa using hread⟩
  | @cons body back gap cs v items hbody hback hgap hrest =>
    simp only [List.length_append, List.length_cons] at hlength
    have hbegins := hrest.begins.append rest
    obtain ⟨position', hread⟩ := h.item_comma hbody (by omega) hback hgap hbegins read position
    obtain ⟨next, hitems⟩ := h.items hrest (by have := hbody.begins.pos; omega) (v :: read) position' rest
    exact ⟨next, by simpa [hitems] using hread⟩

theorem Complete.longItems_succ {fuel : Nat} (h : Complete fuel) {cs : List Char} {count : Nat}
    (hlong : OverlongItems count cs) (hlength : 2 * cs.length + 1 ≤ fuel + 1) (read : List Value)
    (position : Nat) : readItems (fuel + 1) read ⟨position, cs⟩ = .error (.tooManyDigits count) := by
  cases hlong with
  | here hlong =>
    rw [readItems_succ, h.long hlong (by omega)]
    rfl
  | @later body back gap cs v hbody hback hgap hrest =>
    simp only [List.length_append, List.length_cons] at hlength
    obtain ⟨position', hread⟩ := h.item_comma hbody (by omega) hback hgap hrest.begins read position
    rw [hread]
    exact h.longItems hrest (by omega) _ _

/-! ### Maps -/

section Entries

variable {fuel : Nat} {label body back gap cs : List Char} {key : String} {v : Value}

/-- An entry is read up to its value. -/
theorem readEntries_label (hlabel : Label label key) (hcs : Begins cs) (fuel position : Nat)
    (read : List (String × Value)) :
    ∃ next, readEntries (fuel + 1) read ⟨position, label ++ cs⟩ =
      (readValue fuel ⟨next, cs⟩).bind fun (v, next) =>
        entriesBehind fuel (setEntry key v read) (skipBlanks next) := by
  obtain ⟨hbody, hbefore, hafter⟩ := hlabel
  rename_i body before after pieces
  obtain ⟨next, hkey⟩ := readString_of_spells hbody position (position + 1) Piece.pending_none []
    (before ++ ':' :: (after ++ cs))
  refine ⟨next + before.length + 1 + after.length, ?_⟩
  have hfront : '"' :: (body ++ '"' :: (before ++ ':' :: after)) ++ cs =
      '"' :: (body ++ '"' :: (before ++ ':' :: (after ++ cs))) := by simp
  rw [hfront, readEntries_succ, hkey]
  show entryBehind fuel _ read (skipBlanks ⟨next, before ++ ':' :: (after ++ cs)⟩) = _
  rw [skipBlanks_mark (by decide) hbefore]
  show (readValue fuel (skipBlanks ⟨next + before.length + 1, after ++ cs⟩)).bind _ = _
  rw [hcs.skipBlanks hafter]
  rfl

theorem Complete.entry_last (h : Complete fuel) (hlabel : Label label key) (hbody : Denotes digitLimit body v)
    (hlength : body.length ≤ fuel) (hback : IsBlanks back) (rest : List Char)
    (read : List (String × Value)) (position : Nat) :
    ∃ next, readEntries (fuel + 1) read ⟨position, label ++ (body ++ (back ++ '\x7d' :: rest))⟩ =
      .ok (.map (setEntry key v read), ⟨next, rest⟩) := by
  obtain ⟨start, hentry⟩ := readEntries_label hlabel (hbody.begins.append (back ++ '\x7d' :: rest)) fuel
    position read
  obtain ⟨next, hread⟩ := h.value hbody hlength
    (follows_append hback (follows_cons (.inr (.inr rfl)) rest)) start
  refine ⟨next + back.length + 1, ?_⟩
  rw [hentry, hread]
  show entriesBehind fuel (setEntry key v read) (skipBlanks ⟨next, back ++ '\x7d' :: rest⟩) = _
  rw [skipBlanks_mark (by decide) hback]
  rfl

theorem Complete.entry_comma (h : Complete fuel) (hlabel : Label label key)
    (hbody : Denotes digitLimit body v) (hlength : body.length ≤ fuel) (hback : IsBlanks back)
    (hgap : IsBlanks gap) (hcs : Begins cs) (read : List (String × Value)) (position : Nat) :
    ∃ next, readEntries (fuel + 1) read ⟨position, label ++ (body ++ (back ++ ',' :: (gap ++ cs)))⟩ =
      readEntries fuel (setEntry key v read) ⟨next, cs⟩ := by
  obtain ⟨start, hentry⟩ := readEntries_label hlabel (hbody.begins.append (back ++ ',' :: (gap ++ cs))) fuel
    position read
  obtain ⟨next, hread⟩ := h.value hbody hlength (follows_append hback (follows_cons (.inl rfl) _)) start
  refine ⟨next + back.length + 1 + gap.length, ?_⟩
  rw [hentry, hread]
  show entriesBehind fuel (setEntry key v read) (skipBlanks ⟨next, back ++ ',' :: (gap ++ cs)⟩) = _
  rw [skipBlanks_mark (by decide) hback]
  show readEntries fuel (setEntry key v read) (skipBlanks ⟨next + back.length + 1, gap ++ cs⟩) = _
  rw [hcs.skipBlanks hgap]

end Entries

theorem Complete.entries_succ {fuel : Nat} (h : Complete fuel) {cs : List Char}
    {entries : List (String × Value)} (hentries : Entries digitLimit cs entries)
    (hlength : cs.length ≤ fuel + 1) (read : List (String × Value)) (position : Nat) (rest : List Char) :
    ∃ next, readEntries (fuel + 1) read ⟨position, cs ++ rest⟩ =
      .ok (.map (entries.foldl (fun read e => setEntry e.1 e.2 read) read), ⟨next, rest⟩) := by
  cases hentries with
  | @last label body back key v hlabel hbody hback =>
    simp only [List.length_append, List.length_singleton] at hlength
    obtain ⟨next, hread⟩ := h.entry_last hlabel hbody (by omega) hback rest read position
    exact ⟨next, by simpa using hread⟩
  | @cons label body back gap cs key v entries hlabel hbody hback hgap hrest =>
    simp only [List.length_append, List.length_cons] at hlength
    have hbegins := hrest.begins.append rest
    obtain ⟨position', hread⟩ := h.entry_comma hlabel hbody (by omega) hback hgap hbegins read position
    obtain ⟨next, hentries⟩ :=
      h.entries hrest (by have := hlabel.begins.pos; omega) (setEntry key v read) position' rest
    exact ⟨next, by simpa [hentries] using hread⟩

theorem Complete.longEntries_succ {fuel : Nat} (h : Complete fuel) {cs : List Char} {count : Nat}
    (hlong : OverlongEntries count cs) (hlength : 2 * cs.length + 1 ≤ fuel + 1)
    (read : List (String × Value)) (position : Nat) :
    readEntries (fuel + 1) read ⟨position, cs⟩ = .error (.tooManyDigits count) := by
  cases hlong with
  | @here label cs key hlabel hlong =>
    simp only [List.length_append] at hlength
    obtain ⟨start, hentry⟩ := readEntries_label hlabel hlong.begins fuel position read
    rw [hentry, h.long hlong (by omega)]
    rfl
  | @later label body back gap cs key v hlabel hbody hback hgap hrest =>
    simp only [List.length_append, List.length_cons] at hlength
    obtain ⟨position', hread⟩ := h.entry_comma hlabel hbody (by omega) hback hgap hrest.begins read position
    rw [hread]
    exact h.longEntries hrest (by omega) _ _

/-! ### Values -/

theorem readValue_word {word : List Char} {v : Value} (h : (word, v) ∈ words) (fuel position : Nat)
    (rest : List Char) : ∃ next, readValue (fuel + 1) ⟨position, word ++ rest⟩ = .ok (v, ⟨next, rest⟩) := by
  simp only [words, List.mem_cons, Prod.mk.injEq, List.not_mem_nil, or_false] at h
  rcases h with ⟨rfl, rfl⟩ | ⟨rfl, rfl⟩ | ⟨rfl, rfl⟩ | ⟨rfl, rfl⟩ | ⟨rfl, rfl⟩ | ⟨rfl, rfl⟩ <;>
    exact ⟨_, rfl⟩

theorem readValue_whole {ds : List Char} (h : IsDigits ds) (negative : Bool) (after : List Char)
    (fuel position : Nat) :
    readValue (fuel + 1) ⟨position, minus negative ++ (ds ++ after)⟩ =
      readNumber ⟨position, minus negative ++ (ds ++ after)⟩ := by
  obtain ⟨d, tail, rfl, hd⟩ := h.cases
  exact readValue_digits hd negative fuel position (tail ++ after)

theorem readValue_number {body rest : List Char} {v : Value} (h : Number digitLimit body v)
    (hrest : ¬ Continues rest) (fuel position : Nat) :
    ∃ next, readValue (fuel + 1) ⟨position, body ++ rest⟩ = .ok (v, ⟨next, rest⟩) := by
  obtain ⟨next, hread⟩ := readNumber_of_number h hrest position
  refine ⟨next, ?_⟩
  rw [← hread]
  cases h with
  | integer negative whole _ =>
    rw [List.append_assoc]
    exact readValue_whole whole.toIsDigits negative _ fuel position
  | real negative whole _ _ _ =>
    rw [List.append_assoc, List.append_assoc]
    exact readValue_whole whole.toIsDigits negative _ fuel position

/-- Behind a bracket the items of the list are read, if something else than its end follows. -/
theorem readValue_items {gap cs : List Char} (hgap : IsBlanks gap) (hcs : Begins cs) (fuel position : Nat) :
    readValue (fuel + 1) ⟨position, '[' :: (gap ++ cs)⟩ = readItems fuel [] ⟨position + 1 + gap.length, cs⟩ := by
  rw [readValue_list, hcs.skipBlanks hgap]
  obtain ⟨c, tail, rfl, -, hc, -⟩ := hcs
  unfold listFrom
  split
  · rename_i heq
    exact absurd (List.cons.inj heq).1 hc
  · rfl

theorem readValue_entries {gap cs : List Char} (hgap : IsBlanks gap) (hcs : Begins cs) (fuel position : Nat) :
    readValue (fuel + 1) ⟨position, '\x7b' :: (gap ++ cs)⟩ =
      readEntries fuel [] ⟨position + 1 + gap.length, cs⟩ := by
  rw [readValue_map, hcs.skipBlanks hgap]
  obtain ⟨c, tail, rfl, -, -, hc, -⟩ := hcs
  unfold mapFrom
  split
  · rename_i heq
    exact absurd (List.cons.inj heq).1 hc
  · rfl

theorem Complete.value_succ {fuel : Nat} (h : Complete fuel) {body rest : List Char} {v : Value}
    (hbody : Denotes digitLimit body v) (hlength : body.length ≤ fuel + 1) (hrest : Follows rest)
    (position : Nat) :
    ∃ next, readValue (fuel + 1) ⟨position, body ++ rest⟩ = .ok (v, ⟨next, rest⟩) := by
  cases hbody with
  | word hword => exact readValue_word hword fuel position rest
  | number hnumber => exact readValue_number hnumber hrest.not_continues fuel position
  | @text body pieces hspells =>
    obtain ⟨next, hread⟩ := readString_of_spells hspells position (position + 1) Piece.pending_none [] rest
    refine ⟨next, ?_⟩
    rw [List.cons_append, List.append_assoc, List.singleton_append, readValue_quote, hread]
    rfl
  | @emptyList gap hgap =>
    refine ⟨position + 1 + gap.length + 1, ?_⟩
    rw [List.cons_append, List.append_assoc, List.singleton_append, readValue_list,
      skipBlanks_mark (by decide) hgap]
    rfl
  | @list gap cs items hgap hitems =>
    simp only [List.length_append, List.length_cons] at hlength
    rw [List.cons_append, List.append_assoc, readValue_items hgap (hitems.begins.append rest)]
    exact h.items hitems (by omega) [] _ rest
  | @emptyMap gap hgap =>
    refine ⟨position + 1 + gap.length + 1, ?_⟩
    rw [List.cons_append, List.append_assoc, List.singleton_append, readValue_map,
      skipBlanks_mark (by decide) hgap]
    rfl
  | @map gap cs entries hgap hentries =>
    simp only [List.length_append, List.length_cons] at hlength
    rw [List.cons_append, List.append_assoc, readValue_entries hgap (hentries.begins.append rest)]
    exact h.entries hentries (by omega) [] _ rest

theorem Complete.long_succ {fuel : Nat} (h : Complete fuel) {cs : List Char} {count : Nat}
    (hlong : Overlong count cs) (hlength : 2 * cs.length ≤ fuel + 1) (position : Nat) :
    readValue (fuel + 1) ⟨position, cs⟩ = .error (.tooManyDigits count) := by
  cases hlong with
  | number negative whole hcount long hrest =>
    subst hcount
    rw [readValue_whole whole.toIsDigits, readNumber_of_long whole long hrest]
  | @list gap cs hgap hitems =>
    simp only [List.length_append, List.length_cons] at hlength
    rw [readValue_items hgap hitems.begins]
    exact h.longItems hitems (by omega) [] _
  | @map gap cs hgap hentries =>
    simp only [List.length_append, List.length_cons] at hlength
    rw [readValue_entries hgap hentries.begins]
    exact h.longEntries hentries (by omega) [] _

theorem complete (fuel : Nat) : Complete fuel := by
  induction fuel with
  | zero => exact complete_zero
  | succ fuel ih =>
    exact ⟨ih.value_succ, ih.items_succ, ih.entries_succ, ih.long_succ, ih.longItems_succ,
      ih.longEntries_succ⟩

/-! ## Integers of any length

A value whose integers may be longer is either one that is read, or it is read up to the first integer of too
many digits. The induction is on the derivation, one rule at a time.
-/

mutual

theorem Denotes.short_or_long {limit : Nat} {body : List Char} {v : Value} :
    Denotes limit body v → ∀ {rest : List Char}, Follows rest →
      Denotes digitLimit body v ∨ ∃ count, Overlong count (body ++ rest)
  | .word h, _, _ => .inl (.word h)
  | .text h, _, _ => .inl (.text h)
  | .emptyList hgap, _, _ => .inl (.emptyList hgap)
  | .emptyMap hgap, _, _ => .inl (.emptyMap hgap)
  | .number h, rest, hrest => by
    cases h with
    | @integer ds negative whole _ =>
      by_cases hlong : digitLimit < ds.length
      · refine .inr ⟨ds.length, ?_⟩
        rw [List.append_assoc]
        exact .number negative whole rfl hlong hrest.not_continues
      · exact .inl (.number (.integer negative whole (Nat.le_of_not_lt hlong)))
    | real negative whole hfraction hexponent hreal =>
      exact .inl (.number (.real negative whole hfraction hexponent hreal))
  | .list hgap h, rest, _ => by
    rcases h.short_or_long rest with h | ⟨count, h⟩
    · exact .inl (.list hgap h)
    · exact .inr ⟨count, by simpa using Overlong.list hgap h⟩
  | .map hgap h, rest, _ => by
    rcases h.short_or_long rest with h | ⟨count, h⟩
    · exact .inl (.map hgap h)
    · exact .inr ⟨count, by simpa using Overlong.map hgap h⟩

theorem Items.short_or_long {limit : Nat} {cs : List Char} {items : List Value} :
    Items limit cs items → ∀ rest : List Char,
      Items digitLimit cs items ∨ ∃ count, OverlongItems count (cs ++ rest)
  | .last h hback, rest => by
    have hrest := follows_append hback (follows_cons (.inr (.inl rfl)) rest)
    rcases h.short_or_long hrest with h | ⟨count, h⟩
    · exact .inl (.last h hback)
    · exact .inr ⟨count, by simpa using OverlongItems.here h⟩
  | @Items.cons _ body back gap cs v items h hback hgap hitems, rest => by
    have hrest := follows_append hback (follows_cons (.inl rfl) (gap ++ (cs ++ rest)))
    rcases h.short_or_long hrest with h | ⟨count, h⟩
    · rcases hitems.short_or_long rest with hitems | ⟨count, hitems⟩
      · exact .inl (.cons h hback hgap hitems)
      · exact .inr ⟨count, by simpa using OverlongItems.later h hback hgap hitems⟩
    · exact .inr ⟨count, by simpa using OverlongItems.here h⟩

theorem Entries.short_or_long {limit : Nat} {cs : List Char} {entries : List (String × Value)} :
    Entries limit cs entries → ∀ rest : List Char,
      Entries digitLimit cs entries ∨ ∃ count, OverlongEntries count (cs ++ rest)
  | .last hlabel h hback, rest => by
    have hrest := follows_append hback (follows_cons (.inr (.inr rfl)) rest)
    rcases h.short_or_long hrest with h | ⟨count, h⟩
    · exact .inl (.last hlabel h hback)
    · exact .inr ⟨count, by simpa using OverlongEntries.here hlabel h⟩
  | @Entries.cons _ label body back gap cs key v entries hlabel h hback hgap hentries, rest => by
    have hrest := follows_append hback (follows_cons (.inl rfl) (gap ++ (cs ++ rest)))
    rcases h.short_or_long hrest with h | ⟨count, h⟩
    · rcases hentries.short_or_long rest with hentries | ⟨count, hentries⟩
      · exact .inl (.cons hlabel h hback hgap hentries)
      · exact .inr ⟨count, by simpa using OverlongEntries.later hlabel h hback hgap hentries⟩
    · exact .inr ⟨count, by simpa using OverlongEntries.here hlabel h⟩

end

theorem IsText.short_or_long {limit : Nat} {cs : List Char} {v : Value} (h : IsText limit cs v) :
    IsText digitLimit cs v ∨ ∃ count, IsOverlong count cs := by
  obtain ⟨front, body, back, hfront, hbody, hback, rfl⟩ := h
  rcases hbody.short_or_long hback.follows with hbody | ⟨count, hlong⟩
  · exact .inl ⟨front, body, back, hfront, hbody, hback, rfl⟩
  · exact .inr ⟨count, front, body ++ back, hfront, hlong, rfl⟩

/-! ## Texts -/

/-- What a whole text is read as behind its value. -/
def textBehind (v : Value) (s : Cursor) : Except Fault Value :=
  if s.rest.isEmpty then .ok v else .error (.extraData s.position)

theorem read_eq (text : String) :
    read text = if text.toList.head? = some '\ufeff' then .error .byteOrderMark else
      (readValue (2 * text.toList.length + 2) (skipBlanks (.start text.toList))).bind fun (v, next) =>
        textBehind v (skipBlanks next) := by
  unfold read
  split_ifs with hmark
  · simp only [hmark]
    rfl
  · simp only [hmark]
    rfl

/-- The value of a text begins behind the blanks at its front. -/
theorem read_of_begins {text : String} {front rest : List Char} (hfront : IsBlanks front)
    (hrest : Begins rest) (htext : text.toList = front ++ rest) :
    read text = (readValue (2 * text.toList.length + 2) ⟨0 + front.length, rest⟩).bind fun (v, next) =>
      textBehind v (skipBlanks next) := by
  have hmark : text.toList.head? ≠ some '\ufeff' := by
    rw [htext]
    rcases front with _ | ⟨c, front⟩
    · obtain ⟨c, tail, rfl, -, -, -, hc⟩ := hrest
      exact fun h => hc (Option.some.inj h)
    · intro h
      obtain rfl : c = '\ufeff' := Option.some.inj h
      exact absurd (hfront _ List.mem_cons_self) (by decide)
  have hstart : skipBlanks (.start text.toList) = ⟨0 + front.length, rest⟩ := by
    rw [htext]
    exact hrest.skipBlanks hfront 0
  rw [read_eq, if_neg hmark, hstart]

/-- A text is refused for a mark of the byte order, or it is blanks and what is read as a value. -/
theorem read_cases (text : String) :
    read text = .error .byteOrderMark ∨ ∃ front rest r, IsBlanks front ∧ text.toList = front ++ rest ∧
      ValueRead rest r ∧ read text = r.bind fun (v, next) => textBehind v (skipBlanks next) := by
  rw [read_eq]
  split
  · exact .inl rfl
  · obtain ⟨front, hfront, htext⟩ := skipBlanks_split (.start text.toList)
    exact .inr ⟨front, _, _, hfront, htext, (sound _).value _, rfl⟩

/-- A text is read as the value that it denotes, and no other text is read. -/
theorem read_eq_ok_iff {text : String} {v : Value} :
    read text = .ok v ↔ IsText digitLimit text.toList v := by
  constructor
  · intro h
    obtain hmark | ⟨front, rest, r, hfront, htext, hv, hread⟩ := read_cases text
    · rw [hmark] at h
      cases h
    · rw [hread] at h
      rcases r with f | ⟨w, next⟩
      · cases h
      · obtain ⟨body, rfl, hdenotes⟩ := hv
        obtain ⟨back, hback, hnext⟩ := skipBlanks_split next
        change textBehind w (skipBlanks next) = .ok v at h
        unfold textBehind at h
        split at h
        · rename_i hempty
          cases h
          refine ⟨front, body, back, hfront, hdenotes, hback, ?_⟩
          rw [htext, hnext, List.isEmpty_iff.mp hempty, List.append_nil]
        · cases h
  · rintro ⟨front, body, back, hfront, hbody, hback, htext⟩
    have hlength : body.length ≤ 2 * text.toList.length + 2 := by
      rw [htext]
      simp only [List.length_append]
      omega
    have hfollows : Follows back := hback.follows
    obtain ⟨next, hread⟩ := (complete (2 * text.toList.length + 2)).value hbody hlength hfollows (0 + front.length)
    have hend := @skipBlanks_append back [] hback nofun next
    rw [read_of_begins hfront (hbody.begins.append back) htext, hread]
    show textBehind v (skipBlanks ⟨next, back⟩) = _
    rw [List.append_nil] at hend
    rw [hend]
    rfl

/-- A text is refused for an integer of too many digits just where it is read up to one. -/
theorem read_eq_tooManyDigits_iff {text : String} {count : Nat} :
    read text = .error (.tooManyDigits count) ↔ IsOverlong count text.toList := by
  constructor
  · intro h
    obtain hmark | ⟨front, rest, r, hfront, htext, hv, hread⟩ := read_cases text
    · rw [hmark] at h
      cases h
    · rw [hread] at h
      rcases r with f | ⟨w, next⟩
      · obtain rfl : f = .tooManyDigits count := Except.error.inj h
        exact ⟨front, rest, hfront, hv, htext⟩
      · change textBehind w (skipBlanks next) = .error (.tooManyDigits count) at h
        unfold textBehind at h
        split at h <;> cases h
  · rintro ⟨front, rest, hfront, hlong, htext⟩
    have hlength : 2 * rest.length ≤ 2 * text.toList.length + 2 := by
      rw [htext]
      simp only [List.length_append]
      omega
    rw [read_of_begins hfront hlong.begins htext,
      (complete (2 * text.toList.length + 2)).long hlong hlength]
    rfl

end Localize.Json
