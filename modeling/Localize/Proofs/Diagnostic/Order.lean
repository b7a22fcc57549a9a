/-
  Windows in the order of their modules. `ofWindows` are the windows of modules of different names, as
  they stand when the modules are opened for the first time, one after the other
  (`openWindow_ofWindows`, `foldl_openWindow`); records are reported in that order
  (`records_ofWindows`).
-/
import Localize.Proofs.Diagnostic.Windows

namespace Localize.Aggregator

/-- The windows of some modules, in their order. -/
def ofWindows (ids : List String) (ws : List Window) : Aggregator := ⟨ws, ids.zipIdx⟩

theorem put_ofWindows (ids : List String) (ws : List Window) (i : Nat) (w : Window) :
    (ofWindows ids ws).put i w = ofWindows ids (ws.set i w) := rfl

theorem window_ofWindows (ids : List String) {ws : List Window} {i : Nat} {w : Window}
    (h : ws[i]? = some w) : (ofWindows ids ws).window i = w := by
  unfold ofWindows window
  rw [List.getD_eq_getElem?_getD, h]
  rfl

theorem find?_zipIdx {ids : List String} (hids : ids.Nodup) {i : Nat} {id : String}
    (h : ids[i]? = some id) (k : Nat) : (ids.zipIdx k).find? (·.1 = id) = some (id, k + i) := by
  induction ids generalizing i k with
  | nil => cases h
  | cons first rest ih =>
    obtain ⟨hfirst, hrest⟩ := List.nodup_cons.mp hids
    rw [List.zipIdx_cons]
    rcases i with _ | i
    · cases h
      rw [List.find?_cons_of_pos (by simp)]
      rfl
    · have hne : ¬ first = id := fun heq => hfirst (heq ▸ List.mem_of_getElem? h)
      rw [List.find?_cons_of_neg (by simpa using hne), ih hrest h]
      congr 2
      omega

theorem current?_ofWindows {ids : List String} (hids : ids.Nodup) (ws : List Window) {i : Nat}
    {id : String} (h : ids[i]? = some id) : (ofWindows ids ws).current? id = some i := by
  unfold ofWindows current?
  rw [find?_zipIdx hids h, Nat.zero_add]
  rfl

/-- The records of a severity, in the order of the modules. -/
theorem records_ofWindows {ids : List String} {ws : List Window} (h : ids.length = ws.length)
    (s : Severity) : (ofWindows ids ws).records s = ws.filterMap (·.get? s) := by
  have hwindows : (List.range' 0 ws.length).map (ofWindows ids ws).window = ws := by
    refine List.ext_getElem (by simp) fun i hi hi' => ?_
    rw [List.getElem_map, List.getElem_range', Nat.zero_add, Nat.one_mul]
    exact window_ofWindows ids (List.getElem?_eq_getElem hi')
  unfold records
  show ids.zipIdx.filterMap (fun p => ((ofWindows ids ws).window p.2).get? s) = _
  conv_rhs => rw [← hwindows, ← h, ← List.zipIdx_map_snd 0 ids]
  rw [List.map_map, List.filterMap_map]
  rfl

/-- A module of another name gets a new window behind the others. -/
theorem openWindow_ofWindows {ids : List String} {ws : List Window} (h : ids.length = ws.length)
    {id : String} (hnew : id ∉ ids) :
    (ofWindows ids ws).openWindow id =
      (ofWindows (ids ++ [id]) (ws ++ [{ module := id }]), ws.length) := by
  have hne : ∀ p ∈ ids.zipIdx, p.1 ≠ id := by
    intro p hp heq
    obtain ⟨hlt, hp1⟩ := List.mem_zipIdx' hp
    exact hnew (heq ▸ hp1 ▸ List.getElem_mem hlt)
  have hnone : (ofWindows ids ws).current? id = none := by
    unfold ofWindows current?
    rw [Option.map_eq_none_iff, List.find?_eq_none]
    intro p hp
    simpa using hne p hp
  have hfilter : ids.zipIdx.filter (·.1 ≠ id) = ids.zipIdx := by
    rw [List.filter_eq_self]
    intro p hp
    simpa using hne p hp
  unfold openWindow
  rw [hnone]
  unfold renew ofWindows
  dsimp only
  rw [hfilter, List.zipIdx_append, h]
  simp

/-- Opening modules of different names gives each a new window, in their order. -/
theorem foldl_openWindow {ids : List String} (hids : ids.Nodup) :
    ids.foldl (fun a id => (a.openWindow id).1) {} =
      ofWindows ids (ids.map fun id => { module := id }) := by
  induction ids using List.reverseRecOn with
  | nil => rfl
  | append_singleton ids id ih =>
    obtain ⟨hids, -, hnew⟩ := List.nodup_append.mp hids
    have hmem : id ∉ ids := fun hmem => hnew id hmem id (List.mem_singleton_self id) rfl
    rw [List.foldl_concat, ih hids, openWindow_ofWindows (List.length_map _).symm hmem,
      List.map_append]
    rfl

end Localize.Aggregator
