/-
  Tables: lists of entries with keys. Setting an entry keeps the keys apart (`nodup_setEntry`),
  replaces the entry of its key and leaves the others (`mem_setEntry`). A key has a value just if it is
  among the keys (`valueAt?_eq_none_iff`), and that is the value of one of its entries (`mem_of_valueAt?`).
-/
import Localize.Value
import Mathlib.Data.List.Nodup

namespace Localize

section Table

variable {κ α : Type} [DecidableEq κ] {key : κ} {value : α} {entries : List (κ × α)}

theorem setEntry_of_not_mem (h : key ∉ entries.map Prod.fst) (value : α) :
    setEntry key value entries = entries ++ [(key, value)] := by
  induction entries with
  | nil => rfl
  | cons e entries ih =>
    rw [List.map_cons, List.mem_cons, not_or] at h
    rw [setEntry, if_neg (Ne.symm h.1), ih h.2]
    rfl

theorem nodup_setEntry (h : (entries.map Prod.fst).Nodup) (key : κ) (value : α) :
    ((setEntry key value entries).map Prod.fst).Nodup := by
  rw [keys_setEntry]
  split
  · exact h
  · rename_i hkey
    rw [List.nodup_append]
    refine ⟨h, List.nodup_singleton key, fun k hk k' hk' => ?_⟩
    rw [List.mem_singleton.mp hk']
    exact fun heq => hkey (heq ▸ hk)

theorem mem_keys_setEntry {k : κ} :
    k ∈ (setEntry key value entries).map Prod.fst ↔ k = key ∨ k ∈ entries.map Prod.fst := by
  rw [keys_setEntry]
  split
  · rename_i hkey
    exact ⟨.inr, fun h => h.elim (fun heq => heq ▸ hkey) id⟩
  · rw [List.mem_append, List.mem_singleton, or_comm]

/-- Setting an entry replaces that of its key and leaves the others. -/
theorem mem_setEntry (h : (entries.map Prod.fst).Nodup) {e : κ × α} :
    e ∈ setEntry key value entries ↔ e = (key, value) ∨ e ∈ entries ∧ e.1 ≠ key := by
  induction entries with
  | nil => simp [setEntry]
  | cons first rest ih =>
    obtain ⟨k, v⟩ := first
    rw [List.map_cons, List.nodup_cons] at h
    rw [setEntry]
    by_cases hk : k = key
    · have hother : e ∈ rest → e.1 ≠ key := fun he heq =>
        h.1 (List.mem_map.mpr ⟨e, he, heq.trans hk.symm⟩)
      rw [if_pos hk, hk, List.mem_cons, List.mem_cons]
      constructor
      · rintro (rfl | he)
        · exact .inl rfl
        · exact .inr ⟨.inr he, hother he⟩
      · rintro (rfl | ⟨rfl | he, hne⟩)
        · exact .inl rfl
        · exact absurd rfl hne
        · exact .inr he
    · rw [if_neg hk, List.mem_cons, List.mem_cons, ih h.2]
      constructor
      · rintro (rfl | rfl | ⟨he, hne⟩)
        · exact .inr ⟨.inl rfl, hk⟩
        · exact .inl rfl
        · exact .inr ⟨.inr he, hne⟩
      · rintro (rfl | ⟨rfl | he, hne⟩)
        · exact .inr (.inl rfl)
        · exact .inl rfl
        · exact .inr (.inr ⟨he, hne⟩)

theorem mem_of_valueAt? (h : valueAt? key entries = some value) : (key, value) ∈ entries := by
  induction entries with
  | nil => cases h
  | cons first rest ih =>
    obtain ⟨k, v⟩ := first
    rw [valueAt?] at h
    split at h
    · rename_i hk
      cases h
      exact hk ▸ List.mem_cons_self
    · exact List.mem_cons_of_mem _ (ih h)

/-- Among entries of different keys each has its value at its key. -/
theorem valueAt?_of_mem (h : (entries.map Prod.fst).Nodup) {e : κ × α} (he : e ∈ entries) :
    valueAt? e.1 entries = some e.2 := by
  induction entries with
  | nil => cases he
  | cons first rest ih =>
    obtain ⟨k, v⟩ := first
    rw [List.map_cons, List.nodup_cons] at h
    rw [valueAt?]
    rcases List.mem_cons.mp he with rfl | he
    · exact if_pos rfl
    · rw [if_neg (ne_of_mem_of_not_mem (List.mem_map_of_mem he) h.1).symm]
      exact ih h.2 he

theorem valueAt?_append (key : κ) (front back : List (κ × α)) :
    valueAt? key (front ++ back) = (valueAt? key front).or (valueAt? key back) := by
  induction front with
  | nil => rfl
  | cons e front ih =>
    obtain ⟨k, v⟩ := e
    rw [List.cons_append, valueAt?, valueAt?]
    split
    · rfl
    · exact ih

theorem valueAt?_eq_none_iff : valueAt? key entries = none ↔ key ∉ entries.map Prod.fst := by
  induction entries with
  | nil => exact ⟨fun _ => List.not_mem_nil, fun _ => rfl⟩
  | cons first rest ih =>
    obtain ⟨k, v⟩ := first
    rw [valueAt?, List.map_cons, List.mem_cons, not_or]
    by_cases hk : k = key
    · rw [if_pos hk]
      exact ⟨fun h => absurd h (Option.some_ne_none v), fun h => absurd hk.symm h.1⟩
    · rw [if_neg hk, ih]
      exact ⟨fun h => ⟨Ne.symm hk, h⟩, And.right⟩

/-- The value at a key is among the entries whose keys pass a test that it passes. -/
theorem valueAt?_filter {test : κ → Bool} (h : test key = true) :
    valueAt? key (entries.filter fun e => test e.1) = valueAt? key entries := by
  induction entries with
  | nil => rfl
  | cons first rest ih =>
    obtain ⟨k, v⟩ := first
    by_cases hk : k = key
    · rw [List.filter_cons_of_pos (hk ▸ h), valueAt?, valueAt?, if_pos hk, if_pos hk]
    · rw [List.filter_cons]
      split
      · rw [valueAt?, valueAt?, if_neg hk, if_neg hk, ih]
      · rw [valueAt?, if_neg hk, ih]

end Table

end Localize
