/-
  Objects of texts and integers. What is written for one stands in one line (`visible_writeEntries`), and no
  two of them are written alike: the text of a text or an integer ends where the mark behind it begins
  (`Flat.append_inj`), so the entries can be told from the text (`write_map_inj`), whatever the length of the
  integers.
-/
import Localize.Proofs.Json.Values

namespace Localize.Json

/-- Texts and integers. -/
inductive Flat : Value → Prop
  | int (n : Int) : Flat (.int n)
  | text (s : String) : Flat (.text s)

theorem write_text (s : String) : write (.text s) = string s := by rw [write]

/-! ## One line -/

theorem visible_int (n : Int) : ∀ c ∈ (write (.int n)).toList, 32 ≤ c.toNat := by
  have hdigit : ∀ c : Char, c.isDigit = true → 32 ≤ c.toNat := by
    intro c hc
    have hzero : 48 ≤ c.toNat := by simpa using (Char.isDigit_iff_toNat.mp hc).1
    omega
  intro c hc
  rw [toList_write_int, List.mem_append] at hc
  rcases hc with hc | hc
  · split at hc
    · rw [List.mem_singleton.mp hc]
      decide
    · cases hc
  · exact hdigit c (isDigit_toDigits c hc)

theorem Flat.visible {v : Value} (h : Flat v) : ∀ c ∈ (write v).toList, 32 ≤ c.toNat := by
  cases h with
  | int n => exact visible_int n
  | text s =>
    rw [write_text]
    exact (isQuoted_string s).visible

theorem visible_writeEntries {entries : List (String × Value)} (h : ∀ e ∈ entries, Flat e.2) :
    ∀ c ∈ (writeEntries entries).toList, 32 ≤ c.toNat := by
  induction entries with
  | nil => exact fun c hc => absurd hc List.not_mem_nil
  | cons e others ih =>
    obtain ⟨k, v⟩ := e
    obtain ⟨hv, hothers⟩ := List.forall_mem_cons.mp h
    have hkey := (isQuoted_string k).visible
    have hvalue := Flat.visible hv
    intro c hc
    rcases others with _ | ⟨e, others⟩
    · simp only [toList_writeEntries_single, List.mem_append, List.mem_cons] at hc
      obtain hc | rfl | rfl | hc := hc
      · exact hkey c hc
      · decide
      · decide
      · exact hvalue c hc
    · simp only [toList_writeEntries_cons, List.mem_append, List.mem_cons] at hc
      obtain hc | rfl | rfl | hc | rfl | rfl | hc := hc
      · exact hkey c hc
      · decide
      · decide
      · exact hvalue c hc
      · decide
      · decide
      · exact ih hothers c hc

theorem toList_write_map (entries : List (String × Value)) :
    (write (.map entries)).toList = '\x7b' :: ((writeEntries entries).toList ++ ['\x7d']) := by
  rw [write, String.toList_append, String.toList_append]
  rfl

theorem visible_map {entries : List (String × Value)} (h : ∀ e ∈ entries, Flat e.2) :
    ∀ c ∈ (write (.map entries)).toList, 32 ≤ c.toNat := by
  intro c hc
  rw [toList_write_map, List.mem_cons, List.mem_append, List.mem_singleton] at hc
  obtain rfl | hc | rfl := hc
  · decide
  · exact visible_writeEntries h c hc
  · decide

/-! ## One meaning -/

section Inj

variable {rest rest' : List Char}

/-- A written text ends at its last quote: both are what the reader makes of them. -/
theorem string_append_inj {s t : String} (h : (string s).toList ++ rest = (string t).toList ++ rest') :
    s = t ∧ rest = rest' := by
  rw [toList_string, toList_string, List.cons_append, List.cons_append, List.append_assoc,
    List.append_assoc] at h
  obtain ⟨next, hs⟩ := readString_written s.toList 0 0 [] rest
  obtain ⟨next', ht⟩ := readString_written t.toList 0 0 [] rest'
  have hsame : s.toList.flatMap stringChar ++ '"' :: rest = t.toList.flatMap stringChar ++ '"' :: rest' :=
    (List.cons.inj h).2
  rw [hsame, ht] at hs
  simp only [List.reverse_nil, List.nil_append, Except.ok.injEq, Prod.mk.injEq,
    Text.Cursor.mk.injEq] at hs
  exact ⟨String.toList_inj.mp hs.1.symm, hs.2.2.symm⟩

theorem toDigits_append_inj {m n : Nat} (hrest : Closes rest) (hrest' : Closes rest')
    (h : Nat.toDigits 10 m ++ rest = Nat.toDigits 10 n ++ rest') : m = n ∧ rest = rest' := by
  have hm := digits_append (@isDigit_toDigits m) (isDigit_of_closes hrest)
  have hn := digits_append (@isDigit_toDigits n) (isDigit_of_closes hrest')
  rw [h, hn, Prod.mk.injEq] at hm
  refine ⟨?_, hm.2.symm⟩
  rw [← ofDigits_toDigits m, ← hm.1, ofDigits_toDigits]

/-- A written integer ends with its last digit. -/
theorem int_append_inj {m n : Int} (hrest : Closes rest) (hrest' : Closes rest')
    (h : (write (.int m)).toList ++ rest = (write (.int n)).toList ++ rest') :
    m = n ∧ rest = rest' := by
  have hsign : ∀ (k : Nat) (cs back : List Char), Nat.toDigits 10 k ++ cs ≠ '-' :: back := by
    intro k cs back heq
    rcases hds : Nat.toDigits 10 k with _ | ⟨d, ds⟩
    · exact Nat.toDigits_ne_nil hds
    · have hd : d.isDigit = true := isDigit_toDigits d (hds ▸ List.mem_cons_self)
      rw [hds, List.cons_append] at heq
      rw [(List.cons.inj heq).1] at hd
      exact absurd hd (by decide)
  rw [toList_write_int, toList_write_int] at h
  by_cases hm : m < 0 <;> by_cases hn : n < 0 <;> simp only [hm, hn, decide_true, decide_false, if_true,
    Bool.false_eq_true, if_false, List.nil_append, List.cons_append] at h
  · obtain ⟨habs, hback⟩ := toDigits_append_inj hrest hrest' (List.cons.inj h).2
    exact ⟨by omega, hback⟩
  · exact absurd h.symm (hsign _ _ _)
  · exact absurd h (hsign _ _ _)
  · obtain ⟨habs, hback⟩ := toDigits_append_inj hrest hrest' h
    exact ⟨by omega, hback⟩

theorem int_append_ne_string (n : Int) (s : String) :
    (write (.int n)).toList ++ rest ≠ (string s).toList ++ rest' := by
  intro h
  obtain ⟨d, ds, hd, hint | hint⟩ := first_int n
  · rw [hint, toList_string] at h
    exact ne_of_isDigit hd rfl (List.cons.inj h).1
  · rw [hint, toList_string] at h
    exact absurd (List.cons.inj h).1 (by decide)

theorem Flat.append_inj {v w : Value} (hv : Flat v) (hw : Flat w) (hrest : Closes rest)
    (hrest' : Closes rest') (h : (write v).toList ++ rest = (write w).toList ++ rest') :
    v = w ∧ rest = rest' := by
  cases hv with
  | int m =>
    cases hw with
    | int n => simpa using int_append_inj hrest hrest' h
    | text t =>
      rw [write_text] at h
      exact absurd h (int_append_ne_string m t)
  | text s =>
    cases hw with
    | int n =>
      rw [write_text] at h
      exact absurd h.symm (int_append_ne_string n s)
    | text t =>
      rw [write_text, write_text] at h
      simpa using string_append_inj h

/-- What stands behind an entry that others follow, up to the brace and what is behind it. -/
def behindEntry (others : List (String × Value)) (rest : List Char) : List Char :=
  match others with
  | [] => '\x7d' :: rest
  | e :: others => ',' :: ' ' :: ((writeEntries (e :: others)).toList ++ '\x7d' :: rest)

theorem closes_behindEntry (others : List (String × Value)) (rest : List Char) :
    Closes (behindEntry others rest) := by
  rcases others with _ | ⟨e, others⟩
  · exact closes_cons (by decide) _
  · exact closes_cons (by decide) _

theorem writeEntries_append (k : String) (v : Value) (others : List (String × Value)) (rest : List Char) :
    (writeEntries ((k, v) :: others)).toList ++ '\x7d' :: rest =
      (string k).toList ++ ':' :: ' ' :: ((write v).toList ++ behindEntry others rest) := by
  rcases others with _ | ⟨e, others⟩
  · rw [toList_writeEntries_single, behindEntry]
    simp only [List.append_assoc, List.cons_append]
  · rw [toList_writeEntries_cons, behindEntry]
    simp only [List.append_assoc, List.cons_append]

theorem writeEntries_cons_ne (e : String × Value) (others : List (String × Value)) :
    (writeEntries (e :: others)).toList ++ '\x7d' :: rest ≠ '\x7d' :: rest' := by
  obtain ⟨cs, hfirst⟩ := first_entries e others
  rw [hfirst]
  exact fun h => absurd (List.cons.inj h).1 (by decide)

theorem writeEntries_append_inj {es es' : List (String × Value)} (hes : ∀ e ∈ es, Flat e.2)
    (hes' : ∀ e ∈ es', Flat e.2)
    (h : (writeEntries es).toList ++ '\x7d' :: rest = (writeEntries es').toList ++ '\x7d' :: rest') :
    es = es' := by
  induction es generalizing es' with
  | nil =>
    rcases es' with _ | ⟨e', others'⟩
    · rfl
    · exact absurd h.symm (writeEntries_cons_ne e' others')
  | cons e others ih =>
    rcases es' with _ | ⟨⟨k', v'⟩, others'⟩
    · exact absurd h (writeEntries_cons_ne e others)
    · obtain ⟨k, v⟩ := e
      obtain ⟨hv, hothers⟩ := List.forall_mem_cons.mp hes
      obtain ⟨hv', hothers'⟩ := List.forall_mem_cons.mp hes'
      -- The first key and the first value end at their marks, so what is behind them is one text too.
      rw [writeEntries_append, writeEntries_append] at h
      obtain ⟨rfl, hvalue⟩ := string_append_inj h
      obtain ⟨hsame, hback⟩ := Flat.append_inj hv hv' (closes_behindEntry _ _) (closes_behindEntry _ _)
        (List.cons.inj (List.cons.inj hvalue).2).2
      dsimp only at hsame
      rw [hsame]
      rcases others with _ | ⟨e, others⟩ <;> rcases others' with _ | ⟨e', others'⟩
      · rfl
      · exact absurd (List.cons.inj hback).1 (by decide)
      · exact absurd (List.cons.inj hback).1 (by decide)
      · rw [ih hothers hothers' (List.cons.inj (List.cons.inj hback).2).2]

end Inj

/-- Objects of texts and integers that are written alike are the same. -/
theorem write_map_inj {es es' : List (String × Value)} (hes : ∀ e ∈ es, Flat e.2)
    (hes' : ∀ e ∈ es', Flat e.2) (h : write (.map es) = write (.map es')) : es = es' := by
  have htext := congrArg String.toList h
  rw [toList_write_map, toList_write_map] at htext
  exact writeEntries_append_inj hes hes' (List.cons.inj htext).2

end Localize.Json
