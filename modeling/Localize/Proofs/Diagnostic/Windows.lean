/-
  The windows of all modules together. `Sound` says that the current window of each module is its
  own; opening a window and putting one in place keep it. `pending` is what the next scan of a
  module begins with: the misses of its window if that is still open, and nothing if it is sealed
  or there is none. Opening changes nothing in it (`openWindow_opened`), and a window that is put
  in place changes it for its module only (`pending_put`).
-/
import Localize.Proofs.Diagnostic.Entries

namespace Localize.Aggregator

/-! ## Windows by number -/

theorem window_put {a : Aggregator} {i : Nat} (h : i < a.windows.length) (w : Window) (j : Nat) :
    (a.put i w).window j = if i = j then w else a.window j := by
  unfold window put
  rw [List.getD_eq_getElem?_getD, List.getElem?_set, List.getD_eq_getElem?_getD]
  by_cases hij : i = j
  · rw [if_pos hij, if_pos hij, if_pos h]
    rfl
  · rw [if_neg hij, if_neg hij]

theorem length_put (a : Aggregator) (i : Nat) (w : Window) :
    (a.put i w).windows.length = a.windows.length := List.length_set

theorem current?_put (a : Aggregator) (i : Nat) (w : Window) (module : String) :
    (a.put i w).current? module = a.current? module := rfl

theorem put_put (a : Aggregator) (i : Nat) (v w : Window) : (a.put i v).put i w = a.put i w := by
  unfold put
  rw [List.set_set]

theorem mem_of_current? {a : Aggregator} {module : String} {n : Nat}
    (h : a.current? module = some n) : (module, n) ∈ a.current := by
  unfold current? at h
  obtain ⟨⟨m, k⟩, hfind, hk⟩ := Option.map_eq_some_iff.mp h
  have hm : m = module := by simpa using List.find?_some hfind
  cases hk
  exact hm ▸ List.mem_of_find?_eq_some hfind

/-- Windows that are not new are what they were. -/
theorem window_renew_old {a : Aggregator} {n : Nat} (h : n < a.windows.length) (module : String) :
    (a.renew module).1.window n = a.window n := by
  unfold renew window
  rw [List.getD_eq_getElem?_getD, List.getElem?_append_left h, List.getD_eq_getElem?_getD]

theorem window_renew_new (a : Aggregator) (module : String) :
    (a.renew module).1.window (a.renew module).2 = { module := module } := by
  unfold renew window
  rw [List.getD_eq_getElem?_getD, List.getElem?_concat_length]
  rfl

theorem find?_filter_ne (entries : List (String × Nat)) (module other : String) :
    (entries.filter (·.1 ≠ module)).find? (·.1 = other) =
      if other = module then none else entries.find? (·.1 = other) := by
  induction entries with
  | nil => rw [List.filter_nil, List.find?_nil, ite_self]
  | cons p entries ih =>
    by_cases hp : p.1 = module
    · have hother : other ≠ module → ¬ p.1 = other := fun h hpo => h (hpo.symm.trans hp)
      rw [List.filter_cons_of_neg (by simpa using hp), ih]
      split
      · rfl
      · rename_i h
        rw [List.find?_cons_of_neg (by simpa using hother h)]
    · rw [List.filter_cons_of_pos (by simpa using hp)]
      by_cases hpo : p.1 = other
      · have h : ¬ other = module := fun h => hp (hpo.trans h)
        rw [if_neg h, List.find?_cons_of_pos (by simpa using hpo),
          List.find?_cons_of_pos (by simpa using hpo)]
      · rw [List.find?_cons_of_neg (by simpa using hpo), ih,
          List.find?_cons_of_neg (by simpa using hpo)]

theorem current?_renew (a : Aggregator) (module other : String) :
    (a.renew module).1.current? other =
      if other = module then some a.windows.length else a.current? other := by
  unfold renew current?
  rw [List.find?_append, find?_filter_ne]
  by_cases h : other = module
  · rw [if_pos h, if_pos h, Option.none_or, List.find?_cons_of_pos (by simpa using h.symm)]
    rfl
  · have hlast : ¬ module = other := fun hm => h hm.symm
    rw [if_neg h, if_neg h, List.find?_cons_of_neg (by simpa using hlast), List.find?_nil,
      Option.or_none]

theorem current?_renewed (a : Aggregator) (module : String) :
    (a.renew module).1.current? module = some (a.renew module).2 := by
  rw [current?_renew, if_pos rfl]
  rfl

/-! ## Every module has a window of its own -/

/-- The current windows exist, each for its module, with records of its own. -/
structure Sound (a : Aggregator) : Prop where
  given : ∀ p ∈ a.current, p.2 < a.windows.length
  own : ∀ p ∈ a.current, (a.window p.2).module = p.1
  proper : ∀ p ∈ a.current, (a.window p.2).Proper

theorem sound_empty : Sound {} := ⟨nofun, nofun, nofun⟩

/-- What the next scan of a module begins with. -/
def pending (a : Aggregator) (module : String) (s : Severity) : List Miss :=
  match a.window? module with
  | some w => if w.isSealed then [] else w.misses s
  | none => []

theorem pending_of_current {a : Aggregator} {module : String} {n : Nat}
    (h : a.current? module = some n) (s : Severity) :
    a.pending module s = if (a.window n).isSealed then [] else (a.window n).misses s := by
  unfold pending window?
  rw [h]
  rfl

theorem pending_of_none {a : Aggregator} {module : String} (h : a.current? module = none)
    (s : Severity) : a.pending module s = [] := by
  unfold pending window?
  rw [h]
  rfl

/-- What opening a window for a module comes to: the window is open, belongs to the module and holds
what was pending for it. -/
structure Opened (a : Aggregator) (module : String) (b : Aggregator) (n : Nat) : Prop where
  sound : b.Sound
  current : b.current? module = some n
  isOpen : (b.window n).isSealed = false
  misses : ∀ s, (b.window n).misses s = a.pending module s
  pending : ∀ m s, b.pending m s = a.pending m s

theorem Opened.given {a b : Aggregator} {module : String} {n : Nat} (h : Opened a module b n) :
    n < b.windows.length := h.sound.given _ (mem_of_current? h.current)

theorem Opened.own {a b : Aggregator} {module : String} {n : Nat} (h : Opened a module b n) :
    (b.window n).module = module := h.sound.own _ (mem_of_current? h.current)

theorem Opened.proper {a b : Aggregator} {module : String} {n : Nat} (h : Opened a module b n) :
    (b.window n).Proper := h.sound.proper _ (mem_of_current? h.current)

theorem sound_renew {a : Aggregator} (h : a.Sound) (module : String) : (a.renew module).1.Sound := by
  have hcases : ∀ p ∈ (a.renew module).1.current,
      p ∈ a.current ∨ p = (module, (a.renew module).2) := by
    intro p hp
    rcases List.mem_append.mp hp with hp | hp
    · exact .inl (List.mem_filter.mp hp).1
    · exact .inr (List.mem_singleton.mp hp)
  have hlength : (a.renew module).1.windows.length = a.windows.length + 1 := by simp [renew]
  constructor
  · intro p hp
    rw [hlength]
    rcases hcases p hp with hp | rfl
    · exact Nat.lt_succ_of_lt (h.given p hp)
    · exact Nat.lt_succ_self _
  · intro p hp
    rcases hcases p hp with hp | rfl
    · rw [window_renew_old (h.given p hp)]
      exact h.own p hp
    · rw [window_renew_new]
  · intro p hp
    rcases hcases p hp with hp | rfl
    · rw [window_renew_old (h.given p hp)]
      exact h.proper p hp
    · rw [window_renew_new]
      exact Window.proper_empty module false

theorem renew_opened {a : Aggregator} (h : a.Sound) {module : String}
    (hpending : ∀ s, a.pending module s = []) :
    Opened a module (a.renew module).1 (a.renew module).2 := by
  have hcurrent := current?_renewed a module
  have hnil : ∀ s, (Window.mk module false none none).misses s = [] := by
    rintro (_ | _) <;> rfl
  refine ⟨sound_renew h module, hcurrent, ?_, ?_, ?_⟩
  · rw [window_renew_new]
  · intro s
    rw [window_renew_new, hpending s]
    exact hnil s
  · intro m s
    by_cases hm : m = module
    · rw [hm, pending_of_current hcurrent, window_renew_new, hpending s]
      exact hnil s
    · have hsame : (a.renew module).1.current? m = a.current? m := by
        rw [current?_renew, if_neg hm]
      rcases hn : a.current? m with _ | n
      · rw [pending_of_none hn, pending_of_none (hsame.trans hn)]
      · rw [pending_of_current hn, pending_of_current (hsame.trans hn),
          window_renew_old (h.given _ (mem_of_current? hn))]

/-- Opening a window takes over what is pending and changes nothing else. -/
theorem openWindow_opened {a : Aggregator} (h : a.Sound) (module : String) :
    Opened a module (a.openWindow module).1 (a.openWindow module).2 := by
  unfold openWindow
  rcases hn : a.current? module with _ | n
  · exact renew_opened h (pending_of_none hn)
  · dsimp only
    have hpending := pending_of_current hn
    by_cases hs : (a.window n).isSealed = true
    · rw [if_pos hs]
      refine renew_opened h fun s => ?_
      rw [hpending, if_pos hs]
    · rw [if_neg hs]
      refine ⟨h, hn, by simpa using hs, fun s => ?_, fun _ _ => rfl⟩
      rw [hpending, if_neg hs]

/-- A window that is open already is opened as it is. -/
theorem openWindow_of_open {a : Aggregator} {module : String} {n : Nat}
    (hn : a.current? module = some n) (h : (a.window n).isSealed = false) :
    a.openWindow module = (a, n) := by
  unfold openWindow
  rw [hn]
  dsimp only
  rw [h]
  rfl

/-! ## Windows with nothing in them -/

/-- A module that the next scan of begins with nothing: it has no window that is open, or one that
nothing was written to. -/
def Fresh (a : Aggregator) (module : String) : Prop :=
  ∀ w, a.window? module = some w → w.isSealed ∨ w = { module := module }

theorem fresh_empty (module : String) : Fresh {} module := nofun

/-- A window that is not sealed was given. -/
theorem lt_length_of_open {a : Aggregator} {n : Nat} (h : (a.window n).isSealed = false) :
    n < a.windows.length := by
  by_contra hle
  have hnone : a.windows[n]? = none := List.getElem?_eq_none (Nat.not_lt.mp hle)
  unfold window at h
  rw [List.getD_eq_getElem?_getD, hnone] at h
  cases h

theorem renew_of_fresh (a : Aggregator) (module : String) :
    (a.renew module).1.openWindow module = a.renew module ∧
      (a.renew module).1.window (a.renew module).2 = { module := module } := by
  have hnew := window_renew_new a module
  have hopen : ((a.renew module).1.window (a.renew module).2).isSealed = false := by rw [hnew]
  exact ⟨openWindow_of_open (current?_renewed a module) hopen, hnew⟩

/-- Opening a fresh window gives one that is open and empty, and opening it again gives the same. -/
theorem openWindow_of_fresh {a : Aggregator} {module : String} (h : a.Fresh module) :
    (a.openWindow module).1.openWindow module = a.openWindow module ∧
      (a.openWindow module).1.window (a.openWindow module).2 = { module := module } := by
  have hrenew := renew_of_fresh a module
  rcases hn : a.current? module with _ | n
  · have hopen : a.openWindow module = a.renew module := by
      unfold openWindow
      rw [hn]
    rw [hopen]
    exact hrenew
  · have hw : a.window? module = some (a.window n) := by
      unfold window?
      rw [hn]
      rfl
    rcases h _ hw with hsealed | hempty
    · have hopen : a.openWindow module = a.renew module := by
        unfold openWindow
        rw [hn]
        exact if_pos hsealed
      rw [hopen]
      exact hrenew
    · have hopen := openWindow_of_open hn (by rw [hempty])
      rw [hopen]
      exact ⟨hopen, hempty⟩

/-! ## Putting a window in place -/

section Put

variable {a : Aggregator} {module : String} {n : Nat} {w : Window}

theorem Sound.put (h : a.Sound) (hn : a.current? module = some n) (hmodule : w.module = module)
    (hproper : w.Proper) : (a.put n w).Sound := by
  have hmem := mem_of_current? hn
  have hlt := h.given _ hmem
  constructor
  · intro p hp
    rw [length_put]
    exact h.given p hp
  · intro p hp
    rw [window_put hlt]
    by_cases hp2 : n = p.2
    · have hself : module = p.1 := by
        rw [← h.own p hp, ← hp2]
        exact (h.own _ hmem).symm
      rw [if_pos hp2, hmodule, hself]
    · rw [if_neg hp2]
      exact h.own p hp
  · intro p hp
    rw [window_put hlt]
    by_cases hp2 : n = p.2
    · rw [if_pos hp2]
      exact hproper
    · rw [if_neg hp2]
      exact h.proper p hp

/-- A window in place of that of a module decides what is pending for it, and for no other. -/
theorem pending_put (h : a.Sound) (hn : a.current? module = some n) (w : Window) (m : String)
    (s : Severity) :
    (a.put n w).pending m s =
      if m = module then (if w.isSealed then [] else w.misses s) else a.pending m s := by
  have hmem := mem_of_current? hn
  have hlt := h.given _ hmem
  by_cases hm : m = module
  · rw [if_pos hm, hm, pending_of_current ((current?_put a n w module).trans hn), window_put hlt,
      if_pos rfl]
  · rw [if_neg hm]
    rcases hk : a.current? m with _ | k
    · rw [pending_of_none hk, pending_of_none ((current?_put a n w m).trans hk)]
    · have hne : ¬ n = k := by
        rintro rfl
        have hown := h.own _ (mem_of_current? hk)
        rw [h.own _ hmem] at hown
        exact hm hown.symm
      rw [pending_of_current hk, pending_of_current ((current?_put a n w m).trans hk),
        window_put hlt, if_neg hne]

end Put

end Localize.Aggregator
