/-
  What a scan writes to a window, as a list of entries. A window that is open takes every entry
  (`add_of_open`), and what it holds in the end is what it held before together with the entries,
  each key once (`misses_recordAll`). Written to a window that holds something already, entries
  leave the same misses as written to an empty one just if what was held is how those misses begin
  (`foldl_keep_eq_iff`).
-/
import Localize.Diagnostic.Aggregator
import Mathlib.Data.List.Induction
import Mathlib.Data.List.Nodup

namespace Localize

/-- A miss with the severity that it is recorded with. -/
structure Entry where
  severity : Severity
  miss : Miss
deriving DecidableEq, Repr

/-! ## Lists of misses with distinct keys -/

/-- Misses with one more, unless its key is there already. -/
def keep (ms : List Miss) (m : Miss) : List Miss :=
  if m.key ∈ ms.map Miss.key then ms else ms ++ [m]

theorem nodup_keep {ms : List Miss} (h : (ms.map Miss.key).Nodup) (m : Miss) :
    ((keep ms m).map Miss.key).Nodup := by
  unfold keep
  split
  · exact h
  · rename_i hm
    rw [List.map_append, List.map_singleton]
    refine List.nodup_append.mpr ⟨h, List.nodup_singleton _, ?_⟩
    intro a ha b hb hab
    rw [List.mem_singleton] at hb
    exact hm (hb ▸ hab ▸ ha)

theorem nodup_foldl_keep {ms : List Miss} (h : (ms.map Miss.key).Nodup) (ns : List Miss) :
    ((ns.foldl keep ms).map Miss.key).Nodup := by
  induction ns generalizing ms with
  | nil => exact h
  | cons n ns ih => exact ih (nodup_keep h n)

/-- The misses among some whose keys are new to others. -/
def newTo (ms ns : List Miss) : List Miss := ns.filter (·.key ∉ ms.map Miss.key)

theorem keep_append_newTo (ms ns : List Miss) (m : Miss) :
    keep (ms ++ newTo ms ns) m = ms ++ newTo ms (keep ns m) := by
  have hmem : m.key ∈ (ms ++ newTo ms ns).map Miss.key ↔
      m.key ∈ ms.map Miss.key ∨ m.key ∈ ns.map Miss.key := by
    simp only [newTo, List.map_append, List.mem_append, List.mem_map, List.mem_filter,
      decide_eq_true_eq]
    constructor
    · rintro (h | ⟨n, ⟨hn, -⟩, hk⟩)
      · exact .inl h
      · exact .inr ⟨n, hn, hk⟩
    · rintro (h | ⟨n, hn, hk⟩)
      · exact .inl h
      · by_cases hms : m.key ∈ ms.map Miss.key
        · exact .inl (List.mem_map.mp hms)
        · rw [← hk] at hms
          exact .inr ⟨n, ⟨hn, fun h => hms (List.mem_map.mpr h)⟩, hk⟩
  unfold keep
  by_cases hns : m.key ∈ ns.map Miss.key
  · rw [if_pos hns, if_pos (hmem.mpr (.inr hns))]
  · rw [if_neg hns]
    by_cases hms : m.key ∈ ms.map Miss.key
    · rw [if_pos (hmem.mpr (.inl hms)), newTo, newTo, List.filter_append,
        List.filter_cons_of_neg (by simpa using hms), List.filter_nil, List.append_nil]
    · rw [if_neg (by rw [hmem]; exact not_or.mpr ⟨hms, hns⟩), newTo, newTo, List.filter_append,
        List.filter_cons_of_pos (by simpa using hms), List.filter_nil, List.append_assoc]

/-- Keeping misses beside others adds those whose keys are new. -/
theorem foldl_keep (ms ns : List Miss) : ns.foldl keep ms = ms ++ newTo ms (ns.foldl keep []) := by
  induction ns using List.reverseRecOn with
  | nil => simp [newTo]
  | append_singleton ns n ih =>
    rw [List.foldl_concat, List.foldl_concat, ih, keep_append_newTo]

/-- What was kept before makes no difference just if it is what is kept first anyway. -/
theorem foldl_keep_eq_iff (ms ns : List Miss) :
    ns.foldl keep ms = ns.foldl keep [] ↔ ms <+: ns.foldl keep [] := by
  constructor
  · intro h
    exact ⟨newTo ms (ns.foldl keep []), by rw [← foldl_keep, h]⟩
  · rintro ⟨rest, hrest⟩
    have hnil : (([] : List Miss).map Miss.key).Nodup := List.nodup_nil
    have hnodup : ((ms ++ rest).map Miss.key).Nodup := by
      rw [hrest]
      exact nodup_foldl_keep hnil ns
    rw [List.map_append, List.nodup_append] at hnodup
    have hms : ms.filter (·.key ∉ ms.map Miss.key) = [] := by
      rw [List.filter_eq_nil_iff]
      intro m hm
      simpa using ⟨m, hm, rfl⟩
    have hnew : rest.filter (·.key ∉ ms.map Miss.key) = rest := by
      rw [List.filter_eq_self]
      intro m hm
      refine decide_eq_true fun hmem => ?_
      exact hnodup.2.2 _ hmem _ (List.mem_map_of_mem hm) rfl
    rw [foldl_keep, ← hrest, newTo, List.filter_append, hms, hnew, List.nil_append]

/-- The keys that are kept are the distinct keys, each where it comes first. -/
theorem keys_foldl_keep (ns : List Miss) :
    (ns.foldl keep []).map Miss.key = (ns.map Miss.key).eraseDups := by
  induction ns using List.reverseRecOn with
  | nil => rfl
  | append_singleton ns n ih =>
    have hmem : n.key ∈ (ns.foldl keep []).map Miss.key ↔ n.key ∈ ns.map Miss.key := by
      rw [ih, List.mem_eraseDups]
    rw [List.foldl_concat, List.map_append, List.eraseDups_append, keep, ← ih]
    by_cases h : n.key ∈ ns.map Miss.key
    · have hknown : ([n].map Miss.key).removeAll (ns.map Miss.key) = [] := by
        simpa [List.removeAll] using h
      rw [if_pos (hmem.mpr h), hknown, List.eraseDups_nil, List.append_nil]
    · have hnew : ([n].map Miss.key).removeAll (ns.map Miss.key) = [n.key] := by
        simpa [List.removeAll] using h
      rw [if_neg (mt hmem.mp h), hnew, List.map_append]
      rfl

/-- What is kept is the first miss of its key. -/
theorem find?_of_mem_foldl_keep {ns : List Miss} {x : Miss} (h : x ∈ ns.foldl keep []) :
    ns.find? (·.key = x.key) = some x := by
  induction ns using List.reverseRecOn with
  | nil => cases h
  | append_singleton ns n ih =>
    rw [List.foldl_concat, keep] at h
    rw [List.find?_append]
    split at h
    · rw [ih h, Option.some_or]
    · rename_i hnew
      rcases List.mem_append.mp h with hx | hx
      · rw [ih hx, Option.some_or]
      · obtain rfl := List.mem_singleton.mp hx
        rw [keys_foldl_keep, List.mem_eraseDups, List.mem_map] at hnew
        have hnone : ns.find? (·.key = x.key) = none := by
          rw [List.find?_eq_none]
          intro y hy hkey
          exact hnew ⟨y, hy, of_decide_eq_true hkey⟩
        rw [hnone, Option.none_or, List.find?_cons_of_pos (by simp)]

/-- Keeping some keys only can be done before or after. -/
theorem foldl_keep_filter (p : String → Bool) (ns : List Miss) :
    (ns.filter (p ·.key)).foldl keep [] = (ns.foldl keep []).filter (p ·.key) := by
  induction ns using List.reverseRecOn with
  | nil => rfl
  | append_singleton ns n ih =>
    rw [List.filter_append, List.foldl_append, List.foldl_concat, ih, keep]
    cases hp : p n.key with
    | false =>
      have hnone : [n].filter (p ·.key) = [] := List.filter_cons_of_neg (by simp [hp])
      rw [hnone, List.foldl_nil]
      split
      · rfl
      · rw [List.filter_append, hnone, List.append_nil]
    | true =>
      have hself : [n].filter (p ·.key) = [n] := List.filter_cons_of_pos hp
      have hmem : n.key ∈ ((ns.foldl keep []).filter (p ·.key)).map Miss.key ↔
          n.key ∈ (ns.foldl keep []).map Miss.key := by
        rw [List.mem_map, List.mem_map]
        constructor
        · rintro ⟨x, hx, hkey⟩
          exact ⟨x, (List.mem_filter.mp hx).1, hkey⟩
        · rintro ⟨x, hx, hkey⟩
          exact ⟨x, List.mem_filter.mpr ⟨hx, hkey ▸ hp⟩, hkey⟩
      rw [hself, List.foldl_cons, List.foldl_nil, keep]
      by_cases h : n.key ∈ (ns.foldl keep []).map Miss.key
      · rw [if_pos h, if_pos (hmem.mpr h)]
      · rw [if_neg h, if_neg (mt hmem.mp h), List.filter_append, hself]

/-! ## Windows -/

namespace Window

/-- Writes an entry. -/
def record (w : Window) (e : Entry) : Window := w.set e.severity (w.recordWith e.severity e.miss)

/-- Writes entries one after the other. -/
def recordAll (w : Window) (es : List Entry) : Window := es.foldl record w

/-- The misses that are recorded with a severity. -/
def misses (w : Window) (s : Severity) : List Miss := ((w.get? s).map Record.misses).getD []

theorem get?_set (w : Window) (s t : Severity) (r : Record) :
    (w.set s r).get? t = if t = s then some r else w.get? t := by
  cases s <;> cases t <;> rfl

theorem isSealed_record (w : Window) (e : Entry) : (w.record e).isSealed = w.isSealed := by
  rcases e with ⟨_ | _, _⟩ <;> rfl

theorem module_record (w : Window) (e : Entry) : (w.record e).module = w.module := by
  rcases e with ⟨_ | _, _⟩ <;> rfl

theorem isSealed_recordAll (w : Window) (es : List Entry) :
    (w.recordAll es).isSealed = w.isSealed := by
  induction es generalizing w with
  | nil => rfl
  | cons e es ih => exact (ih (w.record e)).trans (w.isSealed_record e)

theorem module_recordAll (w : Window) (es : List Entry) : (w.recordAll es).module = w.module := by
  induction es generalizing w with
  | nil => rfl
  | cons e es ih => exact (ih (w.record e)).trans (w.module_record e)

theorem recordAll_append (w : Window) (es fs : List Entry) :
    w.recordAll (es ++ fs) = (w.recordAll es).recordAll fs := List.foldl_append

/-- A window that is not sealed takes every entry. -/
theorem add_of_open {w : Window} (h : w.isSealed = false) (e : Entry) :
    ∃ isNew, w.add e.severity e.miss = .ok (w.record e, isNew) := by
  refine ⟨!(w.keys e.severity).contains e.miss.key, ?_⟩
  unfold add
  rw [h]
  rfl

theorem misses_recordWith (w : Window) (s : Severity) (m : Miss) :
    (w.recordWith s m).misses = keep (w.misses s) m := by
  unfold recordWith misses
  cases w.get? s with
  | none => rfl
  | some r =>
    show (r.add m).misses = keep r.misses m
    unfold Record.add keep
    split <;> rfl

theorem misses_record (w : Window) (e : Entry) (s : Severity) :
    (w.record e).misses s = if s = e.severity then keep (w.misses s) e.miss else w.misses s := by
  unfold record
  rw [misses, get?_set]
  by_cases h : s = e.severity
  · rw [if_pos h, if_pos h, h, ← misses_recordWith]
    rfl
  · rw [if_neg h, if_neg h, misses]

/-- The misses among entries that have a severity. -/
def missesOf (s : Severity) (es : List Entry) : List Miss :=
  (es.filter (·.severity = s)).map Entry.miss

/-- What a window holds after entries are written to it. -/
theorem misses_recordAll (w : Window) (es : List Entry) (s : Severity) :
    (w.recordAll es).misses s = (missesOf s es).foldl keep (w.misses s) := by
  induction es generalizing w with
  | nil => rfl
  | cons e es ih =>
    have hstep : (w.recordAll (e :: es)).misses s = ((w.record e).recordAll es).misses s := rfl
    rw [hstep, ih, misses_record]
    by_cases h : s = e.severity
    · have h' : e.severity = s := h.symm
      simp [missesOf, h']
    · have h' : ¬ e.severity = s := fun h' => h h'.symm
      simp [missesOf, h, h']

/-! ## Records of a window are determined by its misses -/

/-- A window whose records are its own: of its module, of the severity that they are kept for, and
with something in them. -/
def Proper (w : Window) : Prop :=
  ∀ s r, w.get? s = some r → r.module = w.module ∧ r.severity = s ∧ r.misses ≠ []

theorem proper_empty (module : String) (isSealed : Bool) :
    Proper { module := module, isSealed := isSealed } := by
  rintro (_ | _) r h <;> cases h

theorem Proper.close {w : Window} (h : w.Proper) : w.close.Proper := by
  intro s r hr
  refine h s r ?_
  cases s <;> exact hr

theorem Proper.recordWith {w : Window} (h : w.Proper) (s : Severity) (m : Miss) :
    (w.recordWith s m).module = w.module ∧ (w.recordWith s m).severity = s ∧
      (w.recordWith s m).misses ≠ [] := by
  have hmisses : (w.recordWith s m).misses ≠ [] := by
    rw [misses_recordWith, keep]
    split
    · rename_i hm
      intro hnil
      rw [hnil] at hm
      cases hm
    · simp
  refine ⟨?_, ?_, hmisses⟩
  all_goals
    unfold Window.recordWith
    rcases hr : w.get? s with _ | r
    · rfl
    · obtain ⟨hmodule, hseverity, -⟩ := h s r hr
      dsimp only
      unfold Record.add
      split <;> assumption

theorem Proper.record {w : Window} (h : w.Proper) (e : Entry) : (w.record e).Proper := by
  intro s r hr
  rw [module_record]
  unfold Window.record at hr
  rw [get?_set] at hr
  split at hr
  · rename_i hs
    cases hr
    rw [hs]
    exact h.recordWith e.severity e.miss
  · exact h s r hr

theorem Proper.recordAll {w : Window} (h : w.Proper) (es : List Entry) : (w.recordAll es).Proper := by
  induction es generalizing w with
  | nil => exact h
  | cons e es ih => exact ih (h.record e)

theorem Proper.misses_eq_nil_iff {w : Window} (h : w.Proper) (s : Severity) :
    w.misses s = [] ↔ w.get? s = none := by
  unfold misses
  rcases hr : w.get? s with _ | r
  · exact ⟨fun _ => rfl, fun _ => rfl⟩
  · have hne := (h s r hr).2.2
    exact ⟨fun hnil => absurd hnil hne, fun hnone => by cases hnone⟩

/-- Windows of one module that hold the same misses have the same record. -/
theorem Proper.get?_eq_iff {v w : Window} (hv : v.Proper) (hw : w.Proper)
    (hmodule : v.module = w.module) (s : Severity) :
    v.get? s = w.get? s ↔ v.misses s = w.misses s := by
  constructor
  · intro h
    rw [misses, misses, h]
  · intro h
    rcases hrv : v.get? s with _ | ⟨mv, sv, msv, dv⟩
    · rw [← hv.misses_eq_nil_iff, h, hw.misses_eq_nil_iff] at hrv
      exact hrv.symm
    · rcases hrw : w.get? s with _ | ⟨mw, sw, msw, dw⟩
      · rw [← hw.misses_eq_nil_iff, ← h, hv.misses_eq_nil_iff, hrv] at hrw
        exact hrw
      · obtain ⟨hmv, hsv, -⟩ := hv s _ hrv
        obtain ⟨hmw, hsw, -⟩ := hw s _ hrw
        have hms : msv = msw := by
          simpa [misses, hrv, hrw] using h
        dsimp only at hmv hsv hmw hsw
        simp [hmv, hsv, hmw, hsw, hms, hmodule]

end Window

end Localize
