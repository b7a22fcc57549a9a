/-
  A ledger of what modules miss: one page for each module, in the order of reports. Writers hold the
  numbers of pages. A page that is given up for a new one is gone, and its number is good for nothing
  any more. The windows of a compilation are such a ledger, if windows that were given up are left
  out (`Aggregator.ledger`), as long as nothing can be written to those (`Aggregator.Tidy`).
-/
import Localize.Proofs.Diagnostic.Windows

namespace Localize

/-- What can be done with windows. A number is what opening a module gave. -/
inductive Operation where
  | openModule (module : String)
  | sealModule (module : String)
  | addTo (module : String) (s : Severity) (m : Miss)
  | write (id : Nat) (s : Severity) (m : Miss)
  | sealWindow (id : Nat)

/-- What a record tells. -/
structure Report where
  module : String
  severity : Severity
  misses : List Miss
deriving DecidableEq, Repr

/-- What a module's window tells. -/
structure View where
  module : String
  reports : List Report
deriving DecidableEq, Repr

/-- What an operation gives back. -/
inductive Answer where
  | window (id : Nat)
  | added (isNew : Bool)
  | refused (f : SealedFault)
  /-- What a module missed until its window was sealed. -/
  | finished (view : View)
  | done
  /-- A module that has no window. -/
  | unknown

def Record.report (r : Record) : Report := ⟨r.module, r.severity, r.misses⟩

def Window.view (w : Window) : View := ⟨w.module, w.records.map Record.report⟩

namespace Aggregator

/-- An answer, or a refusal that changes nothing. -/
def orRefused (a : Aggregator) : Except SealedFault (Aggregator × Bool) → Aggregator × Answer
  | .error f => (a, .refused f)
  | .ok (b, isNew) => (b, .added isNew)

/-- What an operation does, and what it gives back. -/
def perform (a : Aggregator) : Operation → Aggregator × Answer
  | .openModule module => ((a.openWindow module).1, .window (a.openWindow module).2)
  | .sealModule module =>
    match a.close? module with
    | some (b, w) => (b, .finished w.view)
    | none => (a, .unknown)
  | .addTo module s m => a.orRefused (a.add module s m)
  | .write id s m => a.orRefused (a.addTo id s m)
  | .sealWindow id => (a.close id, .done)

/-- Operations one after the other, and what they give back. -/
def performAll (a : Aggregator) : List Operation → Aggregator × List Answer
  | [] => (a, [])
  | op :: ops =>
    let (b, answers) := (a.perform op).1.performAll ops
    (b, (a.perform op).2 :: answers)

end Aggregator

/-! ## Pages -/

/-- What one module misses, under the number that writers have for it. -/
structure Page where
  id : Nat
  isSealed : Bool := false
  misses : Severity → List Miss := fun _ => []

namespace Page

/-- A page with one more miss. -/
def append (p : Page) (s : Severity) (m : Miss) : Page :=
  { p with misses := fun t => if t = s then p.misses t ++ [m] else p.misses t }

/-- What a page tells of a severity, if there is anything. -/
def report? (p : Page) (module : String) (s : Severity) : Option Report :=
  if p.misses s = [] then none else some ⟨module, s, p.misses s⟩

/-- What a page tells, warnings first. -/
def view (p : Page) (module : String) : View :=
  ⟨module, (p.report? module .warning).toList ++ (p.report? module .error).toList⟩

end Page

/-- The pages of modules in the order of reports, and the module of every page that there ever was. -/
structure Ledger where
  issued : List String := []
  pages : List (String × Page) := []

namespace Ledger

/-- The page of a module. -/
def page? (l : Ledger) (module : String) : Option Page :=
  (l.pages.find? (·.1 = module)).map (·.2)

/-- The module whose page has a number, with the page. -/
def owner? (l : Ledger) (id : Nat) : Option (String × Page) := l.pages.find? (·.2.id = id)

/-- Puts a page in place of that of a module. -/
def put (l : Ledger) (module : String) (p : Page) : Ledger :=
  { l with pages := l.pages.map fun e => (e.1, if e.1 = module then p else e.2) }

/-- Gives a module an empty page at the end. -/
def renew (l : Ledger) (module : String) : Ledger where
  issued := l.issued ++ [module]
  pages := l.pages.filter (·.1 ≠ module) ++ [(module, { id := l.issued.length })]

/-- Adds a miss to the page of a module, unless the page is sealed or has the key. -/
def write (l : Ledger) (module : String) (p : Page) (s : Severity) (m : Miss) : Ledger × Answer :=
  if p.isSealed then (l, .refused ⟨module, m.key⟩)
  else if m.key ∈ (p.misses s).map Miss.key then (l, .added false)
  else (l.put module (p.append s m), .added true)

/-- What an operation does, and what it gives back. -/
def perform (l : Ledger) : Operation → Ledger × Answer
  | .openModule module =>
    match l.page? module with
    | some p => if p.isSealed then (l.renew module, .window l.issued.length) else (l, .window p.id)
    | none => (l.renew module, .window l.issued.length)
  | .sealModule module =>
    match l.page? module with
    | some p => (l.put module { p with isSealed := true }, .finished (p.view module))
    | none => (l, .unknown)
  | .addTo module s m =>
    match l.page? module with
    | some p => l.write module p s m
    | none => (l.renew module).write module { id := l.issued.length } s m
  | .write id s m =>
    match l.owner? id with
    | some (module, p) => l.write module p s m
    | none => (l, .refused ⟨l.issued.getD id "", m.key⟩)
  | .sealWindow id =>
    match l.owner? id with
    | some (module, p) => (l.put module { p with isSealed := true }, .done)
    | none => (l, .done)

/-- What is recorded with a severity, module by module. -/
def records (l : Ledger) (s : Severity) : List Report :=
  l.pages.filterMap fun e => e.2.report? e.1 s

def get? (l : Ledger) (module : String) (s : Severity) : Option Report :=
  (l.page? module).bind (·.report? module s)

def forModule (l : Ledger) (module : String) : View :=
  match l.page? module with
  | some p => p.view module
  | none => ⟨module, []⟩

def contains (l : Ledger) (module : String) : Bool := (l.page? module).isSome

def hasErrors (l : Ledger) : Bool := l.pages.any fun e => e.2.misses .error ≠ []

/-- Operations one after the other, and what they give back. -/
def performAll (l : Ledger) : List Operation → Ledger × List Answer
  | [] => (l, [])
  | op :: ops =>
    let (k, answers) := (l.perform op).1.performAll ops
    (k, (l.perform op).2 :: answers)

end Ledger

/-! ## Windows as a ledger -/

/-- A window as the page with a number. -/
def Window.page (w : Window) (id : Nat) : Page := ⟨id, w.isSealed, w.misses⟩

theorem Window.isSealed_page (w : Window) (id : Nat) : (w.page id).isSealed = w.isSealed := rfl

theorem Window.misses_page (w : Window) (id : Nat) : (w.page id).misses = w.misses := rfl

theorem Window.page_empty (module : String) (id : Nat) :
    ({ module := module } : Window).page id = { id := id } :=
  congrArg (Page.mk _ _) (funext fun s => by cases s <;> rfl)

namespace Aggregator

/-- The current windows as pages. -/
def ledger (a : Aggregator) : Ledger where
  issued := a.windows.map Window.module
  pages := a.current.map fun e => (e.1, (a.window e.2).page e.2)

/-- Each module has one current window, which is its own, and nothing can be written to any other. -/
structure Tidy (a : Aggregator) : Prop where
  sound : a.Sound
  distinct : (a.current.map Prod.fst).Nodup
  stale : ∀ id ∉ a.current.map Prod.snd, (a.window id).isSealed

theorem tidy_empty : Tidy {} := ⟨sound_empty, List.nodup_nil, fun _ _ => rfl⟩

/-! ### Current windows -/

theorem page?_ledger (a : Aggregator) (module : String) :
    a.ledger.page? module = (a.current? module).map fun id => (a.window id).page id := by
  unfold ledger Ledger.page? current?
  rw [List.find?_map, Option.map_map, Option.map_map]
  rfl

theorem owner?_ledger (a : Aggregator) (id : Nat) :
    a.ledger.owner? id =
      (a.current.find? (·.2 = id)).map fun e => (e.1, (a.window e.2).page e.2) := by
  unfold ledger Ledger.owner?
  rw [List.find?_map]
  rfl

theorem module_window (a : Aggregator) (id : Nat) :
    (a.window id).module = a.ledger.issued.getD id "" := by
  unfold window ledger
  rw [List.getD_eq_getElem?_getD, List.getD_eq_getElem?_getD, List.getElem?_map]
  cases a.windows[id]? <;> rfl

theorem put_window (a : Aggregator) (id : Nat) : a.put id (a.window id) = a := by
  have hwindows : a.windows.set id (a.window id) = a.windows := by
    refine List.ext_getElem? fun i => ?_
    rw [List.getElem?_set, window, List.getD_eq_getElem?_getD]
    by_cases hi : id = i
    · subst hi
      rw [if_pos rfl]
      split
      · rename_i hlt
        rw [List.getElem?_eq_getElem hlt]
        rfl
      · rename_i hlt
        rw [List.getElem?_eq_none (Nat.le_of_not_lt hlt)]
    · rw [if_neg hi]
  unfold put
  rw [hwindows]

theorem isSealed_of_length_le {a : Aggregator} {id : Nat} (h : a.windows.length ≤ id) :
    (a.window id).isSealed := by
  rw [window, List.getD_eq_getElem?_getD, List.getElem?_eq_none h]
  rfl

/-- Among entries of different names the one of a name is the first one found. -/
theorem find?_of_mem {entries : List (String × Nat)} (h : (entries.map Prod.fst).Nodup)
    {e : String × Nat} (he : e ∈ entries) : entries.find? (·.1 = e.1) = some e := by
  induction entries with
  | nil => cases he
  | cons first rest ih =>
    rw [List.map_cons, List.nodup_cons] at h
    rcases List.mem_cons.mp he with rfl | he
    · exact List.find?_cons_of_pos (by simp)
    · have hne : ¬ first.1 = e.1 := fun heq => h.1 (heq ▸ List.mem_map_of_mem he)
      rw [List.find?_cons_of_neg (by simpa using hne), ih h.2 he]

namespace Tidy

variable {a : Aggregator} {module : String} {id : Nat}

/-- The entry of a module is the one of its current window. -/
theorem mem_current (h : a.Tidy) {e : String × Nat} (he : e ∈ a.current) :
    e.1 = module ↔ a.current? module = some e.2 := by
  constructor
  · rintro rfl
    rw [current?, find?_of_mem h.distinct he]
    rfl
  · intro hid
    rw [← h.sound.own e he]
    exact h.sound.own _ (mem_of_current? hid)

/-- The entry of a current window is the one of its module. -/
theorem mem_current_id (h : a.Tidy) (hid : a.current? module = some id) {e : String × Nat}
    (he : e ∈ a.current) : e.2 = id ↔ e.1 = module := by
  have hown := h.sound.own _ (mem_of_current? hid)
  constructor
  · intro heq
    rw [← h.sound.own e he, heq]
    exact hown
  · intro heq
    rw [h.mem_current he, hid] at heq
    exact (Option.some.inj heq).symm

theorem owner?_of_current (h : a.Tidy) (hid : a.current? module = some id) :
    a.ledger.owner? id = some (module, (a.window id).page id) := by
  have hmem := mem_of_current? hid
  rw [owner?_ledger]
  rcases hfind : a.current.find? (·.2 = id) with _ | e
  · have hnone := List.find?_eq_none.mp hfind _ hmem
    simp at hnone
  · have he := List.mem_of_find?_eq_some hfind
    have heid : e.2 = id := by simpa using List.find?_some hfind
    have hemodule := (h.mem_current_id hid he).mp heid
    rw [hfind, Option.map_some, heid, hemodule]

theorem owner?_of_stale (h : id ∉ a.current.map Prod.snd) : a.ledger.owner? id = none := by
  rw [owner?_ledger, Option.map_eq_none_iff, List.find?_eq_none]
  intro e he
  rw [decide_eq_true_eq]
  rintro rfl
  exact h (List.mem_map_of_mem he)

/-- A number is that of a module's current window, or it is stale. -/
theorem current_or_stale (h : a.Tidy) (id : Nat) :
    (∃ module, a.current? module = some id) ∨ id ∉ a.current.map Prod.snd := by
  by_cases hmem : id ∈ a.current.map Prod.snd
  · obtain ⟨e, he, rfl⟩ := List.mem_map.mp hmem
    exact .inl ⟨e.1, (h.mem_current he).mp rfl⟩
  · exact .inr hmem

/-! ### Changes -/

theorem put (h : a.Tidy) (hid : a.current? module = some id) {w : Window}
    (hmodule : w.module = module) (hproper : w.Proper) : (a.put id w).Tidy where
  sound := h.sound.put hid hmodule hproper
  distinct := h.distinct
  stale := by
    intro other hother
    have hmem := mem_of_current? hid
    have hne : ¬ id = other := by
      rintro rfl
      exact hother (List.mem_map.mpr ⟨_, hmem, rfl⟩)
    rw [window_put (h.sound.given _ hmem), if_neg hne]
    exact h.stale other hother

theorem ledger_put (h : a.Tidy) (hid : a.current? module = some id) {w : Window}
    (hmodule : w.module = module) : (a.put id w).ledger = a.ledger.put module (w.page id) := by
  have hmem := mem_of_current? hid
  have hlt := h.sound.given _ hmem
  have hissued : (a.windows.set id w).map Window.module = a.windows.map Window.module := by
    have hown := h.sound.own _ hmem
    rw [window, List.getD_eq_getElem?_getD, List.getElem?_eq_getElem hlt] at hown
    refine List.ext_getElem? fun i => ?_
    rw [List.getElem?_map, List.getElem?_map, List.getElem?_set]
    by_cases hi : id = i
    · rw [if_pos hi, if_pos hlt, ← hi, List.getElem?_eq_getElem hlt]
      exact congrArg some (hmodule.trans hown.symm)
    · rw [if_neg hi]
  have hpages : a.current.map (fun e => (e.1, ((a.put id w).window e.2).page e.2)) =
      (a.current.map fun e => (e.1, (a.window e.2).page e.2)).map
        fun e => (e.1, if e.1 = module then w.page id else e.2) := by
    rw [List.map_map]
    refine List.map_congr_left fun e he => ?_
    rw [window_put hlt]
    by_cases heid : id = e.2
    · rw [if_pos heid, Function.comp_apply, if_pos ((h.mem_current_id hid he).mp heid.symm), heid]
    · have hne : ¬ e.1 = module := fun hm => heid ((h.mem_current_id hid he).mpr hm).symm
      rw [if_neg heid, Function.comp_apply, if_neg hne]
  show Ledger.mk _ _ = Ledger.mk _ _
  exact congrArg₂ Ledger.mk hissued hpages

/-- A page put in its own place changes nothing. -/
theorem put_page (h : a.Tidy) (hid : a.current? module = some id) :
    a.ledger.put module ((a.window id).page id) = a.ledger := by
  rw [← h.ledger_put hid (h.sound.own _ (mem_of_current? hid)), put_window]

/-- A module whose current window is sealed, if it has one, gets a new one. -/
theorem renew (h : a.Tidy) (hsealed : ∀ id, a.current? module = some id → (a.window id).isSealed) :
    (a.renew module).1.Tidy where
  sound := sound_renew h.sound module
  distinct := by
    show ((a.current.filter (fun e : String × Nat => e.1 ≠ module) ++ [(module, _)]).map Prod.fst).Nodup
    rw [List.map_append, List.map_singleton, List.nodup_append]
    refine ⟨(List.filter_sublist.map _).nodup h.distinct, List.nodup_singleton _, ?_⟩
    intro x hx y hy
    obtain ⟨e, he, rfl⟩ := List.mem_map.mp hx
    rw [List.mem_singleton.mp hy]
    simpa using (List.mem_filter.mp he).2
  stale := by
    intro id hid
    change id ∉ (a.current.filter (·.1 ≠ module) ++ [(module, a.windows.length)]).map Prod.snd at hid
    rw [List.map_append, List.mem_append, not_or, List.map_singleton, List.mem_singleton] at hid
    obtain ⟨hother, hnew⟩ := hid
    rcases Nat.lt_trichotomy id a.windows.length with hlt | heq | hgt
    · rw [window_renew_old hlt]
      -- A number that is stale now was stale before, or it was that of the module.
      rcases h.current_or_stale id with ⟨m, hm⟩ | hstale
      · by_cases hmodule : m = module
        · exact hsealed id (hmodule ▸ hm)
        · have hmem : (m, id) ∈ a.current.filter (·.1 ≠ module) :=
            List.mem_filter.mpr ⟨mem_of_current? hm, by simpa using hmodule⟩
          exact absurd (List.mem_map.mpr ⟨_, hmem, rfl⟩) hother
      · exact h.stale id hstale
    · exact absurd heq hnew
    · exact isSealed_of_length_le (by simpa [Aggregator.renew] using Nat.succ_le_of_lt hgt)

theorem ledger_renew (h : a.Tidy) (module : String) :
    (a.renew module).1.ledger = a.ledger.renew module := by
  have hpages : (a.current.filter (·.1 ≠ module)).map
        (fun e => (e.1, ((a.renew module).1.window e.2).page e.2)) =
      (a.current.map fun e => (e.1, (a.window e.2).page e.2)).filter (·.1 ≠ module) := by
    rw [List.filter_map]
    refine List.map_congr_left fun e he => ?_
    rw [window_renew_old (h.sound.given e (List.mem_filter.mp he).1)]
  have hnew : ((a.renew module).1.window a.windows.length).page a.windows.length =
      { id := a.ledger.issued.length } := by
    have hpage : ((a.renew module).1.window (a.renew module).2).page a.windows.length =
        { id := a.windows.length } := by
      rw [window_renew_new, Window.page_empty]
    rw [show a.ledger.issued.length = a.windows.length from List.length_map _]
    exact hpage
  have hissued : (a.renew module).1.windows.map Window.module =
      a.windows.map Window.module ++ [module] := List.map_append
  refine congrArg₂ Ledger.mk hissued ?_
  show (a.current.filter (fun e => e.1 ≠ module) ++ [(module, a.windows.length)]).map _ = _
  rw [List.map_append, hpages, List.map_singleton, hnew]
  rfl

end Tidy

end Aggregator

end Localize
