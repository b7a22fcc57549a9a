/-
  JSON text of values and back. `Plain` are the values that a JSON text can hold, numbers with a
  fraction apart. What is written for one of them is read as the value again, whatever closes it
  (`Reads.of_plain`), and so is the whole text (`read_write`). Each level of the reader's fuel is
  paid for by a character of the text.
-/
import Localize.Proofs.Json.Strings
import Localize.Proofs.Table
import Mathlib.Data.List.Basic
import Mathlib.Data.List.TakeDrop

namespace Localize.Json

/-- Data of a JSON text: integers that are short enough to be read, maps with each key once. -/
inductive Plain : Value → Prop
  | null : Plain .null
  | bool (b : Bool) : Plain (.bool b)
  | int (n : Int) (short : (Nat.toDigits 10 n.natAbs).length ≤ digitLimit) : Plain (.int n)
  | text (s : String) : Plain (.text s)
  | list {items : List Value} (plain : ∀ v ∈ items, Plain v) : Plain (.list items)
  | map {entries : List (String × Value)} (distinct : (entries.map Prod.fst).Nodup)
      (plain : ∀ e ∈ entries, Plain e.2) : Plain (.map entries)

/-- What can stand behind a value: nothing, or what closes or goes on with a list or a map. -/
def Closes (rest : List Char) : Prop := ∀ c ∈ rest.head?, c = ',' ∨ c = ']' ∨ c = '\x7d'

theorem closes_nil : Closes [] := nofun

theorem closes_cons {c : Char} (h : c = ',' ∨ c = ']' ∨ c = '\x7d') (rest : List Char) :
    Closes (c :: rest) := by
  intro d hd
  cases hd
  exact h

/-! ## Blanks -/

theorem skipBlanks_of_not_blank {c : Char} (h : isBlank c = false) (position : Nat)
    (rest : List Char) : skipBlanks ⟨position, c :: rest⟩ = ⟨position, c :: rest⟩ := by
  simp [skipBlanks, Text.Cursor.skipWhile, Text.Cursor.takeWhile, Text.Cursor.skip, h]

theorem skipBlanks_of_closes {rest : List Char} (h : Closes rest) (position : Nat) :
    skipBlanks ⟨position, rest⟩ = ⟨position, rest⟩ := by
  rcases rest with _ | ⟨c, rest⟩
  · rfl
  · apply skipBlanks_of_not_blank
    rcases h c rfl with rfl | rfl | rfl <;> decide

/-- One blank is stepped over in front of something that is none. -/
theorem skipBlanks_blank {c : Char} (h : isBlank c = false) (position : Nat) (rest : List Char) :
    skipBlanks ⟨position, ' ' :: c :: rest⟩ = ⟨position + 1, c :: rest⟩ := by
  have hblank : isBlank ' ' = true := by decide
  simp [skipBlanks, Text.Cursor.skipWhile, Text.Cursor.takeWhile, Text.Cursor.skip, h, hblank]

/-! ## Integers -/

theorem isDigit_toDigits {n : Nat} : ∀ c ∈ Nat.toDigits 10 n, c.isDigit = true :=
  fun _ hc => Nat.isDigit_of_mem_toDigits (by decide) (by decide) hc

theorem isDigit_of_closes {rest : List Char} (h : Closes rest) :
    ∀ c ∈ rest.head?, c.isDigit = false := by
  intro c hc
  rcases h c hc with rfl | rfl | rfl <;> decide

/-- Only zero is written with a zero in front. -/
theorem head_toDigits_ne_zero {n : Nat} (h : 0 < n) : (Nat.toDigits 10 n).head? ≠ some '0' := by
  induction n using Nat.strongRecOn with
  | ind n ih =>
    rw [Nat.toDigits_eq_if (by decide)]
    split
    · simpa using Nat.ne_of_gt h
    · rename_i hten
      have hfront := ih (n / 10) (by omega) (by omega)
      rwa [List.head?_append_of_ne_nil _ Nat.toDigits_ne_nil]

theorem ofDigits_toDigits (n : Nat) : ofDigits (Nat.toDigits 10 n) = n := by
  have h := @Nat.ofDigitChars_ten_toDigits n
  rwa [Nat.ofDigitChars_eq_foldl] at h

theorem digits_append {ds rest : List Char} (hds : ∀ c ∈ ds, c.isDigit = true)
    (hrest : ∀ c ∈ rest.head?, c.isDigit = false) : digits (ds ++ rest) = (ds, rest) := by
  have hnone : rest.takeWhile Char.isDigit = [] ∧ rest.dropWhile Char.isDigit = rest := by
    rcases rest with _ | ⟨c, rest⟩
    · exact ⟨rfl, rfl⟩
    · simp [hrest c rfl]
  rw [digits, List.span_eq_takeWhile_dropWhile, List.takeWhile_append_of_pos hds,
    List.dropWhile_append_of_pos hds, hnone.1, hnone.2, List.append_nil]

/-- An integer is read with all of its digits. -/
theorem readNumber_toDigits (n : Nat) (hshort : (Nat.toDigits 10 n).length ≤ digitLimit)
    {rest : List Char} (hrest : Closes rest) (negative : Bool) (position : Nat) :
    ∃ next, readNumber ⟨position, (if negative then ['-'] else []) ++ (Nat.toDigits 10 n ++ rest)⟩ =
      .ok (.int (if negative then -(n : Int) else n), ⟨next, rest⟩) := by
  have hrests : rest = [] ∨ ∃ tail, rest = ',' :: tail ∨ rest = ']' :: tail ∨ rest = '\x7d' :: tail := by
    rcases rest with _ | ⟨c, tail⟩
    · exact .inl rfl
    · right
      rcases hrest c rfl with rfl | rfl | rfl <;> exact ⟨tail, by simp⟩
  rcases Nat.eq_zero_or_pos n with rfl | hpos
  · rcases hrests with rfl | ⟨tail, rfl | rfl | rfl⟩ <;> cases negative <;> exact ⟨_, rfl⟩
  · have hdigits := digits_append (@isDigit_toDigits n) (isDigit_of_closes hrest)
    have hvalue := ofDigits_toDigits n
    have hhead := head_toDigits_ne_zero hpos
    have hfirst := @isDigit_toDigits n
    rcases hds : Nat.toDigits 10 n with _ | ⟨d, ds⟩
    · exact absurd hds Nat.toDigits_ne_nil
    · rw [hds] at hshort hdigits hvalue hhead hfirst
      have hzero : d ≠ '0' := fun h => hhead (by rw [h]; rfl)
      have hsign : d ≠ '-' := by
        rintro rfl
        exact absurd (hfirst _ List.mem_cons_self) (by decide)
      have hlong : ¬ digitLimit < ds.length + 1 := Nat.not_lt.mpr hshort
      rw [List.cons_append] at hdigits
      rcases hrests with rfl | ⟨tail, rfl | rfl | rfl⟩
      · rw [List.append_nil] at hdigits
        cases negative <;> simp [readNumber, hsign, hzero, hdigits, hvalue, hlong]
      all_goals cases negative <;> simp [readNumber, hsign, hzero, hdigits, hvalue, hlong]

/-! ## Values -/

/-- A value that is read back from what is written for it, whatever closes it. -/
def Reads (v : Value) : Prop :=
  ∀ (fuel position : Nat) (rest : List Char), (write v).toList.length ≤ fuel + 1 → Closes rest →
    ∃ next, readValue (fuel + 1) ⟨position, (write v).toList ++ rest⟩ = .ok (v, ⟨next, rest⟩)

theorem toList_write_int (n : Int) :
    (write (.int n)).toList =
      (if decide (n < 0) then ['-'] else []) ++ Nat.toDigits 10 n.natAbs := by
  rw [write]
  cases n with
  | ofNat m => exact Nat.toList_repr
  | negSucc m =>
    show ("-" ++ Nat.repr (m + 1)).toList = _
    rw [String.toList_append, Nat.toList_repr, decide_eq_true (Int.negSucc_lt_zero m)]
    rfl

theorem ne_of_isDigit {c d : Char} (hc : c.isDigit = true) (hd : d.isDigit = false) : c ≠ d := by
  rintro rfl
  rw [hc] at hd
  cases hd

/-- An integer begins with a digit, which may stand behind a sign. -/
theorem first_int (n : Int) :
    ∃ d ds, d.isDigit = true ∧ ((write (.int n)).toList = d :: ds ∨
      (write (.int n)).toList = '-' :: d :: ds) := by
  have hfirst := @isDigit_toDigits n.natAbs
  rw [toList_write_int]
  rcases hds : Nat.toDigits 10 n.natAbs with _ | ⟨d, ds⟩
  · exact absurd hds Nat.toDigits_ne_nil
  · refine ⟨d, ds, hfirst d (hds ▸ List.mem_cons_self), ?_⟩
    split
    · exact .inr rfl
    · exact .inl rfl

/-- What is written for a value begins with no blank and no byte order mark, and not like the end of
a list. -/
theorem Plain.first {v : Value} (h : Plain v) :
    ∃ c cs, (write v).toList = c :: cs ∧ isBlank c = false ∧ c ≠ ']' ∧ c ≠ '\ufeff' := by
  cases h with
  | null => exact ⟨'n', _, rfl, by decide, by decide, by decide⟩
  | bool b =>
    cases b with
    | false => exact ⟨'f', _, rfl, by decide, by decide, by decide⟩
    | true => exact ⟨'t', _, rfl, by decide, by decide, by decide⟩
  | int n short =>
    obtain ⟨d, ds, hd, htext | htext⟩ := first_int n
    · have hblank : isBlank d = false := by
        simp [isBlank, ne_of_isDigit hd (d := ' ') rfl, ne_of_isDigit hd (d := '\t') rfl,
          ne_of_isDigit hd (d := '\n') rfl, ne_of_isDigit hd (d := '\r') rfl]
      exact ⟨d, ds, htext, hblank, ne_of_isDigit hd rfl, ne_of_isDigit hd (by decide)⟩
    · exact ⟨'-', d :: ds, htext, by decide, by decide, by decide⟩
  | text s => exact ⟨'"', _, toList_string s, by decide, by decide, by decide⟩
  | @list items plain =>
    exact ⟨'[', (writeItems items).toList ++ [']'], by rw [write]; simp, by decide, by decide,
      by decide⟩
  | @map entries distinct plain =>
    exact ⟨'\x7b', (writeEntries entries).toList ++ ['\x7d'], by rw [write]; simp, by decide,
      by decide, by decide⟩

/-! ## Values without parts -/

theorem reads_null : Reads .null := fun _ _ _ _ _ => ⟨_, rfl⟩

theorem reads_bool (b : Bool) : Reads (.bool b) := by
  intro fuel position rest _ _
  cases b <;> exact ⟨_, rfl⟩

theorem reads_text (s : String) : Reads (.text s) :=
  fun fuel position rest _ _ => readValue_string s fuel position rest

/-- What begins like an integer is read as a number. -/
theorem readValue_digits {d : Char} (hd : d.isDigit = true) (negative : Bool) (fuel position : Nat)
    (rest : List Char) :
    readValue (fuel + 1) ⟨position, (if negative then ['-'] else []) ++ d :: rest⟩ =
      readNumber ⟨position, (if negative then ['-'] else []) ++ d :: rest⟩ := by
  have hne (c : Char) (hc : c.isDigit = false) : d ≠ c := ne_of_isDigit hd hc
  have hne' (c : Char) (hc : c.isDigit = false) : c ≠ d := (hne c hc).symm
  cases negative <;> simp [readValue, words, hne, hne']

theorem reads_int (n : Int) (hshort : (Nat.toDigits 10 n.natAbs).length ≤ digitLimit) :
    Reads (.int n) := by
  intro fuel position rest _ hrest
  obtain ⟨next, hnumber⟩ := readNumber_toDigits n.natAbs hshort hrest (decide (n < 0)) position
  have hvalue : (if decide (n < 0) then -(n.natAbs : Int) else n.natAbs) = n := by
    simp only [decide_eq_true_eq]
    split <;> omega
  refine ⟨next, ?_⟩
  rw [toList_write_int, List.append_assoc]
  rw [hvalue] at hnumber
  have hfirst := @isDigit_toDigits n.natAbs
  rcases hds : Nat.toDigits 10 n.natAbs with _ | ⟨d, ds⟩
  · exact absurd hds Nat.toDigits_ne_nil
  · rw [hds] at hnumber hfirst
    rw [List.cons_append, readValue_digits (hfirst d List.mem_cons_self)]
    exact hnumber

/-! ## Lists -/

theorem readItems_last {fuel : Nat} {s : Text.Cursor} {v : Value} {position : Nat} {rest : List Char}
    (h : readValue fuel s = .ok (v, ⟨position, ']' :: rest⟩)) (read : List Value) :
    readItems (fuel + 1) read s = .ok (.list (v :: read).reverse, ⟨position + 1, rest⟩) := by
  rw [readItems, h]
  rfl

theorem readItems_comma {fuel : Nat} {s : Text.Cursor} {v : Value} {position : Nat}
    {rest : List Char} (h : readValue fuel s = .ok (v, ⟨position, ',' :: rest⟩))
    (read : List Value) :
    readItems (fuel + 1) read s =
      readItems fuel (v :: read) (skipBlanks ⟨position + 1, rest⟩) := by
  rw [readItems, h]
  rfl

theorem toList_writeItems_cons (v w : Value) (others : List Value) :
    (writeItems (v :: w :: others)).toList =
      (write v).toList ++ ',' :: ' ' :: (writeItems (w :: others)).toList := by
  rw [writeItems, String.toList_append, String.toList_append, List.append_assoc]
  · rfl
  · nofun

theorem first_items {v : Value} (h : Plain v) (others : List Value) :
    ∃ c cs, (writeItems (v :: others)).toList = c :: cs ∧ isBlank c = false ∧ c ≠ ']' := by
  obtain ⟨c, cs, hfirst, hblank, hc, -⟩ := h.first
  rcases others with _ | ⟨w, others⟩
  · exact ⟨c, cs, hfirst, hblank, hc⟩
  · rw [toList_writeItems_cons, hfirst]
    exact ⟨c, _, rfl, hblank, hc⟩

/-- The items of a list are read up to the bracket that closes it. -/
theorem readItems_write {items : List Value} (hne : items ≠ []) (hplain : ∀ v ∈ items, Plain v)
    (hreads : ∀ v ∈ items, Reads v) (fuel : Nat)
    (hfuel : (writeItems items).toList.length ≤ fuel) (position : Nat) (read : List Value)
    (rest : List Char) :
    ∃ next, readItems (fuel + 1) read ⟨position, (writeItems items).toList ++ ']' :: rest⟩ =
      .ok (.list (read.reverse ++ items), ⟨next, rest⟩) := by
  induction items generalizing fuel position read with
  | nil => exact absurd rfl hne
  | cons v others ih =>
    have hv := hreads v List.mem_cons_self
    obtain ⟨c, cs, hfirst, -⟩ := first_items (hplain v List.mem_cons_self) others
    obtain ⟨fuel, rfl⟩ : ∃ k, fuel = k + 1 :=
      Nat.exists_eq_succ_of_ne_zero (by rw [hfirst, List.length_cons] at hfuel; omega)
    rcases others with _ | ⟨w, others⟩
    · obtain ⟨next, hread⟩ := hv fuel position (']' :: rest) hfuel (closes_cons (by decide) rest)
      refine ⟨next + 1, ?_⟩
      rw [writeItems, readItems_last hread, List.reverse_cons]
    · have hplain' : ∀ v ∈ w :: others, Plain v := fun x hx => hplain x (List.mem_cons_of_mem _ hx)
      obtain ⟨d, ds, hnext, hblank, -⟩ := first_items (hplain' w List.mem_cons_self) others
      rw [toList_writeItems_cons] at hfuel ⊢
      rw [List.length_append, List.length_cons, List.length_cons] at hfuel
      obtain ⟨p, hread⟩ := hv fuel position
        (',' :: ' ' :: ((writeItems (w :: others)).toList ++ ']' :: rest)) (by omega)
        (closes_cons (by decide) _)
      obtain ⟨next, hrest⟩ := ih (List.cons_ne_nil w others) hplain'
        (fun x hx => hreads x (List.mem_cons_of_mem _ hx)) fuel (by omega) (p + 1 + 1)
        (v :: read)
      refine ⟨next, ?_⟩
      rw [hnext, List.cons_append] at hread hrest
      rw [hnext, List.append_assoc, List.cons_append, List.cons_append, List.cons_append,
        readItems_comma hread, skipBlanks_blank hblank, hrest, List.reverse_cons, List.append_assoc]
      rfl

theorem readValue_bracket {c : Char} (hblank : isBlank c = false) (hc : c ≠ ']')
    (fuel position : Nat) (rest : List Char) :
    readValue (fuel + 1) ⟨position, '[' :: c :: rest⟩ =
      readItems fuel [] ⟨position + 1, c :: rest⟩ := by
  unfold readValue
  simp only [skipBlanks_of_not_blank hblank]
  split
  · rename_i h
    exact absurd (List.cons.inj h).1 hc
  · rfl

theorem reads_list {items : List Value} (hplain : ∀ v ∈ items, Plain v)
    (hreads : ∀ v ∈ items, Reads v) : Reads (.list items) := by
  intro fuel position rest hfuel _
  rw [write, String.toList_append, String.toList_append] at hfuel ⊢
  rcases items with _ | ⟨v, others⟩
  · exact ⟨position + 1 + 1, rfl⟩
  · obtain ⟨c, cs, hfirst, hblank, hc⟩ := first_items (hplain v List.mem_cons_self) others
    have hlength : (writeItems (v :: others)).toList.length + 2 ≤ fuel + 1 := by
      simpa using hfuel
    obtain ⟨fuel, rfl⟩ : ∃ k, fuel = k + 1 := Nat.exists_eq_succ_of_ne_zero (by omega)
    obtain ⟨next, hread⟩ := readItems_write (List.cons_ne_nil v others) hplain hreads
      fuel (by omega) (position + 1) [] rest
    refine ⟨next, ?_⟩
    rw [hfirst, List.cons_append] at hread
    rw [hfirst]
    show readValue (fuel + 1 + 1) ⟨position, '[' :: c :: (cs ++ [']']) ++ rest⟩ = _
    rw [List.cons_append, List.cons_append, readValue_bracket hblank hc, List.append_assoc]
    exact hread

/-! ## Maps -/

/-- An entry is read up to its value, and what stands behind it decides how the map goes on. -/
theorem readEntries_entry (key : String) (fuel position : Nat) (read : List (String × Value))
    {c : Char} (hblank : isBlank c = false) (rest : List Char) :
    ∃ p, readEntries (fuel + 1) read
        ⟨position, (string key).toList ++ ':' :: ' ' :: c :: rest⟩ =
      (readValue fuel ⟨p, c :: rest⟩).bind fun (v, next) =>
        match (skipBlanks next).rest with
        | '\x7d' :: _ => .ok (.map (setEntry key v read), (skipBlanks next).skip 1)
        | ',' :: _ => readEntries fuel (setEntry key v read) (skipBlanks ((skipBlanks next).skip 1))
        | _ => .error (.comma (skipBlanks next).position) := by
  obtain ⟨next, hkey⟩ := readString_written key.toList position (position + 1) []
    (':' :: ' ' :: c :: rest)
  have hcolon : isBlank ':' = false := by decide
  refine ⟨next + 1 + 1, ?_⟩
  rw [toList_string, List.cons_append, List.append_assoc, List.singleton_append, readEntries]
  simp only [hkey, bind, Except.bind, List.reverse_nil, List.nil_append, String.ofList_toList,
    skipBlanks_of_not_blank hcolon, Text.Cursor.skip, List.drop_succ_cons, List.drop_zero,
    skipBlanks_blank hblank]
  rfl

section Entry

variable {key : String} {v : Value} {fuel : Nat} {read : List (String × Value)} {c : Char}
  {rest tail : List Char}

theorem readEntries_last (hkey : key ∉ read.map Prod.fst) (hblank : isBlank c = false)
    (h : ∀ p, ∃ next, readValue fuel ⟨p, c :: rest⟩ = .ok (v, ⟨next, '\x7d' :: tail⟩))
    (position : Nat) :
    ∃ next, readEntries (fuel + 1) read
        ⟨position, (string key).toList ++ ':' :: ' ' :: c :: rest⟩ =
      .ok (.map (read ++ [(key, v)]), ⟨next, tail⟩) := by
  obtain ⟨p, hentry⟩ := readEntries_entry key fuel position read hblank rest
  obtain ⟨next, hread⟩ := h p
  refine ⟨next + 1, ?_⟩
  rw [hentry, hread, ← setEntry_of_not_mem hkey]
  rfl

theorem readEntries_comma (hkey : key ∉ read.map Prod.fst) (hblank : isBlank c = false)
    (h : ∀ p, ∃ next, readValue fuel ⟨p, c :: rest⟩ = .ok (v, ⟨next, ',' :: ' ' :: '"' :: tail⟩))
    (position : Nat) :
    ∃ next, readEntries (fuel + 1) read
        ⟨position, (string key).toList ++ ':' :: ' ' :: c :: rest⟩ =
      readEntries fuel (read ++ [(key, v)]) ⟨next, '"' :: tail⟩ := by
  obtain ⟨p, hentry⟩ := readEntries_entry key fuel position read hblank rest
  obtain ⟨next, hread⟩ := h p
  refine ⟨next + 1 + 1, ?_⟩
  rw [hentry, hread, ← setEntry_of_not_mem hkey]
  rfl

end Entry

theorem toList_writeEntries_single (k : String) (v : Value) :
    (writeEntries [(k, v)]).toList = (string k).toList ++ ':' :: ' ' :: (write v).toList := by
  rw [writeEntries, String.toList_append, String.toList_append, List.append_assoc]
  rfl

theorem toList_writeEntries_cons (k : String) (v : Value) (e : String × Value)
    (others : List (String × Value)) :
    (writeEntries ((k, v) :: e :: others)).toList = (string k).toList ++ ':' :: ' ' ::
      ((write v).toList ++ ',' :: ' ' :: (writeEntries (e :: others)).toList) := by
  rw [writeEntries]
  · simp only [String.toList_append, List.append_assoc]
    rfl
  · nofun

theorem first_entries (e : String × Value) (others : List (String × Value)) :
    ∃ cs, (writeEntries (e :: others)).toList = '"' :: cs := by
  obtain ⟨k, v⟩ := e
  rcases others with _ | ⟨e, others⟩
  · rw [toList_writeEntries_single, toList_string]
    exact ⟨_, rfl⟩
  · rw [toList_writeEntries_cons, toList_string]
    exact ⟨_, rfl⟩

/-- The entries of a map are read up to the brace that closes it; each of them has a key of its own
and comes last. -/
theorem readEntries_write {entries : List (String × Value)} (hne : entries ≠ [])
    (hplain : ∀ e ∈ entries, Plain e.2) (hreads : ∀ e ∈ entries, Reads e.2) (fuel : Nat)
    (hfuel : (writeEntries entries).toList.length ≤ fuel) (position : Nat)
    (read : List (String × Value)) (hdistinct : ((read ++ entries).map Prod.fst).Nodup)
    (rest : List Char) :
    ∃ next, readEntries (fuel + 1) read ⟨position, (writeEntries entries).toList ++ '\x7d' :: rest⟩ =
      .ok (.map (read ++ entries), ⟨next, rest⟩) := by
  induction entries generalizing fuel position read with
  | nil => exact absurd rfl hne
  | cons e others ih =>
    obtain ⟨k, v⟩ := e
    have hv : Reads v := hreads _ List.mem_cons_self
    obtain ⟨c, cs, hfirst, hblank, -⟩ := (hplain _ List.mem_cons_self).first
    have hk : k ∉ read.map Prod.fst := by
      rw [List.map_append, List.nodup_append] at hdistinct
      exact fun hk => hdistinct.2.2 k hk k List.mem_cons_self rfl
    obtain ⟨fuel, rfl⟩ : ∃ n, fuel = n + 1 := by
      obtain ⟨cs, htext⟩ := first_entries (k, v) others
      exact Nat.exists_eq_succ_of_ne_zero (by rw [htext, List.length_cons] at hfuel; omega)
    rcases others with _ | ⟨e, others⟩
    · rw [toList_writeEntries_single, hfirst, List.append_assoc]
      refine readEntries_last hk hblank (fun p => ?_) position
      rw [toList_writeEntries_single, List.length_append, List.length_cons] at hfuel
      have hread := hv fuel p ('\x7d' :: rest) (by rw [List.length_cons] at hfuel; omega)
        (closes_cons (by decide) rest)
      rwa [hfirst] at hread
    · obtain ⟨ds, hnext⟩ := first_entries e others
      rw [toList_writeEntries_cons] at hfuel ⊢
      simp only [List.length_append, List.length_cons] at hfuel
      have hread : ∀ p, ∃ next,
          readValue (fuel + 1) ⟨p, c :: (cs ++ ',' :: ' ' :: '"' :: (ds ++ '\x7d' :: rest))⟩ =
            .ok (v, ⟨next, ',' :: ' ' :: '"' :: (ds ++ '\x7d' :: rest)⟩) := fun p => by
        have hread := hv fuel p (',' :: ' ' :: '"' :: (ds ++ '\x7d' :: rest)) (by omega)
          (closes_cons (by decide) _)
        rwa [hfirst] at hread
      obtain ⟨p, hentry⟩ := readEntries_comma hk hblank hread position
      obtain ⟨next, hrest⟩ := ih (List.cons_ne_nil e others)
        (fun x hx => hplain x (List.mem_cons_of_mem _ hx))
        (fun x hx => hreads x (List.mem_cons_of_mem _ hx)) fuel (by omega) p
        (read ++ [(k, v)]) (by rwa [List.append_assoc])
      refine ⟨next, ?_⟩
      rw [hnext, List.append_assoc] at hrest
      rw [hfirst, hnext]
      simp only [List.append_assoc, List.cons_append]
      exact hentry.trans hrest

theorem readValue_brace (fuel position : Nat) (rest : List Char) :
    readValue (fuel + 1) ⟨position, '\x7b' :: '"' :: rest⟩ =
      readEntries fuel [] ⟨position + 1, '"' :: rest⟩ := rfl

theorem reads_map {entries : List (String × Value)} (hdistinct : (entries.map Prod.fst).Nodup)
    (hplain : ∀ e ∈ entries, Plain e.2) (hreads : ∀ e ∈ entries, Reads e.2) :
    Reads (.map entries) := by
  intro fuel position rest hfuel _
  rw [write, String.toList_append, String.toList_append] at hfuel ⊢
  rcases entries with _ | ⟨e, others⟩
  · exact ⟨position + 1 + 1, rfl⟩
  · obtain ⟨cs, hfirst⟩ := first_entries e others
    have hlength : (writeEntries (e :: others)).toList.length + 2 ≤ fuel + 1 := by
      simpa using hfuel
    obtain ⟨fuel, rfl⟩ : ∃ k, fuel = k + 1 := Nat.exists_eq_succ_of_ne_zero (by omega)
    obtain ⟨next, hread⟩ := readEntries_write (List.cons_ne_nil e others) hplain hreads
      fuel (by omega) (position + 1) [] hdistinct rest
    refine ⟨next, ?_⟩
    rw [hfirst, List.cons_append] at hread
    rw [hfirst]
    show readValue (fuel + 1 + 1) ⟨position, '\x7b' :: '"' :: (cs ++ ['\x7d']) ++ rest⟩ = _
    rw [List.cons_append, List.cons_append, readValue_brace, List.append_assoc]
    exact hread

/-! ## Whole texts -/

/-- What is written for plain data is read as the same data. -/
theorem Reads.of_plain {v : Value} (h : Plain v) : Reads v := by
  induction h with
  | null => exact reads_null
  | bool b => exact reads_bool b
  | int n short => exact reads_int n short
  | text s => exact reads_text s
  | list plain ih => exact reads_list plain ih
  | map distinct plain ih => exact reads_map distinct plain ih

/-- What is written for plain data is one JSON text, of just this data. -/
theorem read_write {v : Value} (h : Plain v) : read (write v) = .ok v := by
  obtain ⟨c, cs, hfirst, hblank, -, hmark⟩ := h.first
  obtain ⟨next, hread⟩ := Reads.of_plain h (2 * (write v).toList.length + 1) 0 [] (by omega)
    closes_nil
  have hstart : skipBlanks (.start (write v).toList) = ⟨0, (write v).toList⟩ := by
    rw [hfirst]
    exact skipBlanks_of_not_blank hblank 0 cs
  have hmark' : ¬ (write v).toList.head? = some '\ufeff' := by
    rw [hfirst]
    exact fun h => hmark (Option.some.inj h)
  rw [List.append_nil] at hread
  unfold read
  dsimp only
  rw [if_neg hmark', hstart, hread]
  simp only [bind, Except.bind, skipBlanks_of_closes closes_nil]
  rfl

theorem read_string (text : String) : read (string text) = .ok (.text text) := by
  have h := read_write (.text text)
  rwa [write] at h

end Localize.Json
